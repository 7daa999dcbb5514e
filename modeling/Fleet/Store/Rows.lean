import Fleet.Record.Shape

/-! Tables of records. A row holds the record that was written, or text that came there
from outside; a written record comes back as its text reads. Scans take every row
whatever its key and fail with the first one that does not read. -/
namespace Fleet

inductive StoreError where
  | unopened
  | undecodable
  | unavailable (call : String)
  deriving DecidableEq, Repr

def StoreError.message? : StoreError → Option String
  | .unavailable call => some ("store unavailable: " ++ call ++ " failed")
  | _ => none

inductive Row (α : Type) where
  | held (record : α)
  | foreign (text : String)
  deriving DecidableEq

def Row.read {α : Type} [Record α] : Row α → Except StoreError α
  | .held r =>
      match Record.settle r with
      | some r => .ok r
      | none => .error .undecodable
  | .foreign text =>
      match Record.decode text with
      | .ok r => .ok r
      | .error _ => .error .undecodable

abbrev Rows (α : Type) := Table String (Row α)

namespace Rows
variable {α : Type}

def scan [Record α] (t : Rows α) : Except StoreError (List α) := t.values.mapM Row.read

def put (key : α → String) (t : Rows α) (records : List α) : Rows α :=
  records.foldl (fun t r => t.insert (key r) (.held r)) t

def remove (t : Rows α) : List String → Nat × Rows α
  | [] => (0, t)
  | k :: rest =>
      let r := remove (t.erase k) rest
      (r.1 + if t.contains k then 1 else 0, r.2)

end Rows

end Fleet
