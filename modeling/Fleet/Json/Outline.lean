import Fleet.Json.Basic

/-! The outline of a JSON text: its values in the order of the text, numerals and
strings as they are written, up to the first place where it stops being JSON. A
reader walks the outline from the front, so of several faults it meets the first. -/
namespace Fleet
namespace Json

inductive Fault where
  | malformed
  | mismatch
  deriving DecidableEq, Repr

/-- How the entries of an array or object end: at the closing bracket, at a place that is
no JSON, or, in an object without entries, at a value that is no key. -/
inductive Ending where
  | closed
  | broken
  | keyless
  deriving DecidableEq, Repr

inductive Outline where
  | null
  | bool (value : Bool)
  | number (value : Numeral)
  | text (raw : List Char)
  | array (items : List Outline) (ending : Ending)
  | object (members : List (List Char × Outline)) (ending : Ending)
  | broken
  deriving Inhabited

namespace Outline

def fault : Outline → Fault
  | .number n => if n.toBinary?.isSome then .mismatch else .malformed
  | .text raw => if (decodeText raw).isSome then .mismatch else .malformed
  | .broken => .malformed
  | _ => .mismatch

def isBlank (c : Char) : Bool := c == ' ' || c == '\t' || c == '\n' || c == '\r'

def skip (s : List Char) : List Char := s.dropWhile isBlank

def scalar (s : List Char) : Outline × Option (List Char) :=
  match s with
  | 'n' :: 'u' :: 'l' :: 'l' :: r => (.null, some r)
  | 't' :: 'r' :: 'u' :: 'e' :: r => (.bool true, some r)
  | 'f' :: 'a' :: 'l' :: 's' :: 'e' :: r => (.bool false, some r)
  | '"' :: r =>
      match lexText r with
      | some (raw, r) => (.text raw, some r)
      | none => (.broken, none)
  | s =>
      match Numeral.lex s with
      | some (n, r) => (.number n, some r)
      | none => (.broken, none)

mutual

def value : Nat → List Char → Outline × Option (List Char)
  | 0, _ => (.broken, none)
  | fuel + 1, s =>
      match skip s with
      | '[' :: r =>
          let (items, ending, rest) := items fuel true r
          (.array items ending, rest)
      | '{' :: r =>
          let (members, ending, rest) := members fuel true r
          (.object members ending, rest)
      | r => scalar r

def items : Nat → Bool → List Char → List Outline × Ending × Option (List Char)
  | 0, _, _ => ([], .broken, none)
  | fuel + 1, first, s =>
      match skip s, first with
      | ']' :: r, _ => ([], .closed, some r)
      | ',' :: r, false => item fuel r
      | r, true => item fuel r
      | _, false => ([], .broken, none)

def item : Nat → List Char → List Outline × Ending × Option (List Char)
  | 0, _ => ([], .broken, none)
  | fuel + 1, s =>
      match value fuel s with
      | (v, none) => ([v], .broken, none)
      | (v, some r) =>
          let (rest, ending, left) := items fuel false r
          (v :: rest, ending, left)

def members : Nat → Bool → List Char → List (List Char × Outline) × Ending × Option (List Char)
  | 0, _, _ => ([], .broken, none)
  | fuel + 1, first, s =>
      match skip s, first with
      | '}' :: r, _ => ([], .closed, some r)
      | ',' :: r, false => member fuel (skip r)
      | '"' :: r, true => member fuel ('"' :: r)
      | r, true =>
          if (value fuel r).1.fault = .mismatch then ([], .keyless, none) else ([], .broken, none)
      | _, false => ([], .broken, none)

def member : Nat → List Char → List (List Char × Outline) × Ending × Option (List Char)
  | fuel + 1, '"' :: s =>
      match lexText s with
      | none => ([], .broken, none)
      | some (key, r) =>
          match skip r with
          | ':' :: r =>
              match value fuel r with
              | (v, none) => ([(key, v)], .broken, none)
              | (v, some r) =>
                  let (rest, ending, left) := members fuel false r
                  ((key, v) :: rest, ending, left)
          | _ => ([(key, .broken)], .broken, none)
  | _, _ => ([], .broken, none)

end

def ofText (s : List Char) : Outline × Bool :=
  match value (4 * s.length + 4) s with
  | (v, some r) => (v, (skip r).isEmpty)
  | (v, none) => (v, false)

end Outline

end Json
end Fleet
