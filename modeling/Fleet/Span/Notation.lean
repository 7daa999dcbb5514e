import Fleet.Span
import Fleet.Text.Blank

/-! How a span is written in the settings: a whole number of seconds, or a number with
one of the units `ms`, `s`, `m` and `h` right behind it, and white space around. -/
namespace Fleet
namespace Span

inductive Scale where
  | millis
  | secs
  | minutes
  | hours
  deriving DecidableEq, Repr

def splitUnit (s : List Char) : List Char × Scale :=
  match s.reverse with
  | 's' :: 'm' :: r => (r.reverse, .millis)
  | 's' :: r => (r.reverse, .secs)
  | 'm' :: r => (r.reverse, .minutes)
  | 'h' :: r => (r.reverse, .hours)
  | _ => (s, .secs)

def number? (s : List Char) : Option Nat :=
  let digits := match s with
    | '+' :: r => r
    | r => r
  let n := Nat.ofDigitChars 10 digits 0
  if !digits.isEmpty && digits.all Char.isDigit && n ≤ Bounds.instant then some n else none

def ofScale (n : Nat) : Scale → Except Overflow Span
  | .millis => .ok (.ofMillis n)
  | .secs => .ok (.ofSecs n)
  | .minutes => (exactProduct n 60).map .ofSecs
  | .hours => (exactProduct n 3600).map .ofSecs

def ofText (s : String) : Except Overflow (Option Span) :=
  let (digits, scale) := splitUnit (Text.trim s.toList)
  match number? digits with
  | none => .ok none
  | some n => (ofScale n scale).map some

end Span
end Fleet
