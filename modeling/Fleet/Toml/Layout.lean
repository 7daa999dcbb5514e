import Fleet.Toml.Scalar

/-! Values of the settings format, and the tables of a document while it is read. A table
that a header names is there to stay; one that only stands on the way to another may
still get its own header, and one that dotted keys make may still get dotted keys. -/
namespace Fleet

inductive Toml where
  | text (value : String)
  | scalar (value : Toml.Scalar)
  | array (items : List Toml)
  | table (entries : List (String × Toml))
  deriving Inhabited

namespace Toml

inductive Node where
  | value (value : Toml)
  | table (implicit dotted : Bool) (entries : List (String × Node))
  | tables (elements : List (List (String × Node)))

namespace Node

abbrev Entries := List (String × Node)

def put (key : String) (n : Node) : Entries → Entries
  | [] => [(key, n)]
  | e :: rest => if e.1 = key then (key, n) :: rest else e :: put key n rest

/-- Changes the table at the end of a path, making the tables on the way. Of an array of
tables the last one counts. Dotted keys do not enter a table that has a header. The
change is told whether the table at the end is one of dotted keys. -/
def descend (dotted : Bool) (change : Bool → Entries → Option Entries) :
    Bool → List String → Entries → Option Entries
  | here, [], es => change here es
  | _, k :: path, es =>
      match es.lookup k with
      | none => (descend dotted change dotted path []).map fun sub => put k (.table true dotted sub) es
      | some (.value _) => none
      | some (.tables elements) =>
          match elements.getLast? with
          | none => none
          | some last =>
              (descend dotted change false path last).map fun sub =>
                put k (.tables (elements.dropLast ++ [sub])) es
      | some (.table implicit d sub) =>
          if dotted && !implicit then none
          else (descend dotted change d path sub).map fun sub => put k (.table implicit d sub) es

def insert (path : List String) (key : String) (v : Toml) (es : Entries) : Option Entries :=
  descend true (fun here es =>
    if !path.isEmpty && !here then none
    else if (es.lookup key).isSome then none
    else some (es ++ [(key, .value v)])) false path es

def openTable (path : List String) (key : String) (root : Entries) : Option Entries :=
  descend false (fun _ es =>
    match es.lookup key with
    | none => some (es ++ [(key, .table false false [])])
    | some (.table true false sub) => some (put key (.table false false sub) es)
    | some _ => none) false path root

def pushTable (path : List String) (key : String) (root : Entries) : Option Entries :=
  descend false (fun _ es =>
    match es.lookup key with
    | none => some (es ++ [(key, .tables [[]])])
    | some (.tables elements) => some (put key (.tables (elements ++ [[]])) es)
    | some _ => none) false path root

mutual

def toToml : Node → Toml
  | .value v => v
  | .table _ _ es => .table (entriesToToml es)
  | .tables elements => .array (elementsToToml elements)

def entriesToToml : List (String × Node) → List (String × Toml)
  | [] => []
  | (k, n) :: rest => (k, toToml n) :: entriesToToml rest

def elementsToToml : List (List (String × Node)) → List Toml
  | [] => []
  | es :: rest => .table (entriesToToml es) :: elementsToToml rest

end

end Node
end Toml
end Fleet
