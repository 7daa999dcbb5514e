import Fleet.Settings
import Fleet.Toml.Document

/-! The settings as a file: one table for each section and one pair for each setting. A
section may also be an array of its values in order. What has no name here is passed
over, and what is left out keeps its standing value. -/
namespace Fleet

namespace Toml

def cell? : Kind → Toml → Option Cell
  | .text, .text s => some (.text s)
  | .whole bound, .scalar (.integer n) => if 0 ≤ n ∧ n ≤ bound then some (.whole n.toNat) else none
  | .flag, .scalar (.flag b) => some (.flag b)
  | _, _ => none

def cellOr (slot : Slot) : Option Toml → Option Cell
  | some v => cell? slot.kind v
  | none => slot.fallback

def cellsInOrder : List Slot → List Toml → Option (List Cell)
  | [], _ => some []
  | slot :: slots, vs => do
      let c ← cellOr slot vs.head?
      let cs ← cellsInOrder slots vs.tail
      some (c :: cs)

/-- The cells of a section. A moment in time has no settings, so as a section it leaves
everything out. -/
def cells? (slots : List Slot) : Toml → Option (List Cell)
  | .table es => slots.mapM fun slot => cellOr slot (es.lookup slot.name)
  | .array vs => cellsInOrder slots vs
  | .scalar .moment => slots.mapM Slot.fallback
  | _ => none

def section? (α : Type) [Record α] (name : String) (es : List (String × Toml)) : Option α := do
  let cells ← cells? (Record.slots α) ((es.lookup name).getD (.table []))
  Record.ofCells? cells

def ofCell? : Cell → Option Toml
  | .text s => some (.text s)
  | .whole n => if n ≤ Bounds.signed then some (.scalar (.integer n)) else none
  | .flag b => some (.scalar (.flag b))
  | _ => none

def ofSection? {α : Type} [Record α] (name : String) (r : α) : Option (List Statement) := do
  let values ← (Record.toCells r).mapM ofCell?
  let pairs := (Record.slots α).zip values
  some (.header [] name :: pairs.map fun p => .pair [] p.1.name p.2)

def writeValue : Toml → List Char
  | .text s => writeText s
  | .scalar (.integer n) => (if n < 0 then ['-'] else []) ++ Nat.toDigits 10 n.natAbs
  | .scalar (.flag b) => if b then ['t', 'r', 'u', 'e'] else ['f', 'a', 'l', 's', 'e']
  | _ => []

def writeStatement : Statement → List Char
  | .header _ key => '[' :: (key.toList ++ [']', '\n'])
  | .element _ key => '[' :: '[' :: (key.toList ++ [']', ']', '\n'])
  | .pair _ key v => key.toList ++ ' ' :: '=' :: ' ' :: (writeValue v ++ ['\n'])

def writeSections : List (List Statement) → List Char
  | [] => []
  | [statements] => statements.flatMap writeStatement
  | statements :: rest => statements.flatMap writeStatement ++ '\n' :: writeSections rest

end Toml

namespace Settings

def parse? (text : String) : Option Settings := do
  let es ← Toml.read text
  some {
    store := ← Toml.section? StoreSettings "store" es
    convergence := ← Toml.section? ConvergenceSettings "convergence" es
    backoff := ← Toml.section? BackoffSettings "crash_backoff" es
    transport := ← Toml.section? TransportSettings "transport" es
    api := ← Toml.section? ApiSettings "api" es }

def ofText (text : String) : Except SettingsError Settings :=
  match parse? text with
  | none => .error .unparsed
  | some s => s.resolve.map fun _ => s

def sections? (s : Settings) : Option (List (List Toml.Statement)) := do
  let store ← Toml.ofSection? "store" s.store
  let convergence ← Toml.ofSection? "convergence" s.convergence
  let backoff ← Toml.ofSection? "crash_backoff" s.backoff
  let transport ← Toml.ofSection? "transport" s.transport
  let api ← Toml.ofSection? "api" s.api
  some [store, convergence, backoff, transport, api]

def render (s : Settings) : Except SettingsError String :=
  match s.sections? with
  | some sections => .ok (String.ofList (Toml.writeSections sections))
  | none => .error .unrendered

def ofBytes (file : Option ByteArray) : Except SettingsError Settings :=
  match file.bind String.fromUTF8? with
  | none => .error .unread
  | some text => ofText text

def ofBytesOrDefaults : Option ByteArray → Except SettingsError Settings
  | none => ofText ""
  | some bytes => ofBytes (some bytes)

end Settings
end Fleet
