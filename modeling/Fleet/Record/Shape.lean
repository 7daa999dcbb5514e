import Fleet.Json.Outline
import Fleet.Table

/-! Records as lists of typed cells under named slots, and their JSON form: an object of
the slots, or an array of the cells in order. Slots that the record does not have are
passed over, a slot twice is a fault, and only a slot with a fallback may be missing. -/
namespace Fleet
open Json (Fault Outline)

inductive Kind where
  | text
  | whole (bound : Nat)
  | real
  | flag
  | choice (names : List String)
  | tally
  deriving DecidableEq

inductive Cell where
  | text (value : String)
  | whole (value : Nat)
  | real (value : Binary64)
  | flag (value : Bool)
  | choice (name : String)
  | tally (counts : Table Nat Nat)
  deriving DecidableEq

structure Slot where
  name : String
  kind : Kind
  fallback : Option Cell := none

namespace Cell

def json : Cell → Json
  | .text s => .text s
  | .whole n => .nat n
  | .real x => .real x
  | .flag b => .bool b
  | .choice name => .text name
  | .tally counts =>
      .object (counts.entries.map fun e => (String.ofList (Nat.toDigits 10 e.1), .nat e.2))

def settle : Cell → Option Cell
  | .real x => x.reread.map .real
  | c => some c

end Cell

namespace Kind

def readText (raw : List Char) : Except Fault String :=
  match Json.decodeText raw with
  | some cs => .ok (String.ofList cs)
  | none => .error .malformed

def readWhole (bound : Nat) : Outline → Except Fault Nat
  | .number n =>
      match n.toNat? bound with
      | some k => .ok k
      | none => .error (Outline.number n).fault
  | o => .error o.fault

def readChoice (names : List String) : Outline → Except Fault String
  | .text raw => do
      let s ← readText raw
      if s ∈ names then .ok s else .error .mismatch
  | .object ((raw, v) :: rest) ending => do
      let s ← readText raw
      if s ∉ names then .error .mismatch
      match v, rest, ending with
      | .null, [], .closed => .ok s
      | .null, _, _ => .error .malformed
      | v, _, _ => .error v.fault
  | .object [] .keyless => .error .mismatch
  | _ => .error .malformed

def keyIndex? (raw : List Char) : Option Nat := do
  let (n, rest) ← Numeral.lexWhole raw
  if rest.isEmpty && n ≤ Bounds.count then some n else none

def readTally (members : List (List Char × Outline)) (ending : Json.Ending) :
    Except Fault (Table Nat Nat) := do
  let counts ← members.foldlM (fun (t : Table Nat Nat) (raw, v) =>
    match keyIndex? raw with
    | some k => do
        let n ← readWhole Bounds.count v
        .ok (t.insert k n)
    | none => .error .malformed) Table.empty
  if ending = .closed then .ok counts else .error .malformed

def read : Kind → Outline → Except Fault Cell
  | .text, .text raw => (readText raw).map .text
  | .whole bound, o => (readWhole bound o).map .whole
  | .real, .number n =>
      match n.toBinary? with
      | some x => .ok (.real x)
      | none => .error .malformed
  | .flag, .bool b => .ok (.flag b)
  | .choice names, o => (readChoice names o).map .choice
  | .tally, .object members ending => (readTally members ending).map .tally
  | _, o => .error o.fault

end Kind

namespace Shape

def readMembers (slots : List Slot) (found : List (String × Cell)) :
    List (List Char × Outline) → Except Fault (List (String × Cell))
  | [] => .ok found
  | (raw, v) :: rest => do
      let key ← Kind.readText raw
      match slots.find? (·.name = key) with
      | none => readMembers slots found rest
      | some slot =>
          if (found.lookup key).isSome then .error .mismatch
          let c ← slot.kind.read v
          readMembers slots ((key, c) :: found) rest

def orFallback (slot : Slot) : Option Cell → Except Fault Cell
  | some c => .ok c
  | none =>
      match slot.fallback with
      | some c => .ok c
      | none => .error .mismatch

def readItems : List Slot → List Outline → Json.Ending → Except Fault (List Cell)
  | [], [], .closed => .ok []
  | [], _, _ => .error .malformed
  | slot :: slots, v :: rest, ending => do
      let c ← slot.kind.read v
      let cs ← readItems slots rest ending
      .ok (c :: cs)
  | slot :: slots, [], .closed => do
      let c ← orFallback slot none
      let cs ← readItems slots [] .closed
      .ok (c :: cs)
  | _, [], _ => .error .malformed

def read (slots : List Slot) : Outline → Except Fault (List Cell)
  | .array items ending => readItems slots items ending
  | .object members ending => do
      let found ← readMembers slots [] members
      if ending ≠ .closed then .error .malformed
      slots.mapM fun slot => orFallback slot (found.lookup slot.name)
  | o => .error o.fault

def write (slots : List Slot) (cells : List Cell) : Json :=
  .object ((slots.zip cells).map fun (slot, c) => (slot.name, c.json))

end Shape

class Record (α : Type) where
  slots : List Slot
  toCells : α → List Cell
  ofCells? : List Cell → Option α

namespace Record
variable {α : Type} [Record α]

def toJson (r : α) : Json := Shape.write (slots α) (toCells r)

def encode (r : α) : String := (toJson r).toText

def ofOutline (o : Outline) : Except Fault α := do
  let cells ← Shape.read (slots α) o
  match ofCells? cells with
  | some r => .ok r
  | none => .error .mismatch

def decode (s : String) : Except Fault α := do
  let (o, clean) := Outline.ofText s.toList
  let r ← ofOutline o
  if clean then .ok r else .error .malformed

def decodeAll (s : String) : Except Fault (List α) := do
  let (o, clean) := Outline.ofText s.toList
  match o with
  | .array items ending =>
      let rs ← items.mapM ofOutline
      if ending = .closed && clean then .ok rs else .error .malformed
  | o => .error o.fault

def settle (r : α) : Option α := do
  let cells ← (toCells r).mapM Cell.settle
  ofCells? cells

end Record

end Fleet
