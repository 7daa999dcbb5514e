import Fleet.Store

/-! Stores under the paths of their files. A path holds a store unless a file stands
where one of its folders should be, or a folder where its file should be; what is not
there yet is made. -/
namespace Fleet

abbrev Depot := Table String Store

namespace Depot

def steps (path : String) : List String :=
  (path.splitOn "/").foldl (fun names name =>
    if name = "" ∨ name = "." then names
    else if name = ".." then names.dropLast
    else names ++ [name]) []

def key (path : String) : String := String.intercalate "/" (steps path)

def namesFile (path : String) : Bool :=
  match (path.splitOn "/").getLast? with
  | some name => name ≠ "" ∧ name ≠ "." ∧ name ≠ ".."
  | none => false

def folder? (path : String) : Option String :=
  let folder := String.intercalate "/" (path.splitOn "/").dropLast
  if folder = "" then none else some folder

def isUnder (path folder : String) : Bool := (folder ++ "/").toList.isPrefixOf path.toList

def open? (d : Depot) (path : String) : Option Store :=
  let key := key path
  if !namesFile path || d.keys.any (fun k => isUnder key k || isUnder k key) then none
  else some ((d.get? key).getD (.empty .zero))

def keep (d : Depot) (path : String) (s : Store) : Depot := d.insert (key path) s

end Depot
end Fleet
