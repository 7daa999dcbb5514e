import Fleet.Numeral

/-! Values of the settings format that are written without quotes and brackets: integers,
reals, truth values, and moments in time. The text of such a value is taken whole. -/
namespace Fleet
namespace Toml

inductive Scalar where
  | integer (value : Int)
  | real
  | flag (value : Bool)
  | moment
  deriving DecidableEq, Repr

namespace Scalar

def grouped (digit : Char → Bool) : List Char → Option (List Char)
  | [] => none
  | [c] => if digit c then some [c] else none
  | c :: '_' :: r => if digit c then (grouped digit r).map (c :: ·) else none
  | c :: r => if digit c then (grouped digit r).map (c :: ·) else none

def wholeDigits (s : List Char) : Option (List Char) := do
  let ds ← grouped Char.isDigit s
  if ds.length > 1 && ds.head? == some '0' then none else some ds

def unsigned (s : List Char) : Bool × List Char :=
  match s with
  | '-' :: r => (true, r)
  | '+' :: r => (false, r)
  | r => (false, r)

def decimal? (s : List Char) : Option Int := do
  let (negative, r) := unsigned s
  let n := Nat.ofDigitChars 10 (← wholeDigits r) 0
  if n ≤ Bounds.signed then some (if negative then -(n : Int) else n)
  else if negative && n = Bounds.signed + 1 then some (-(n : Int))
  else none

def hexDigit (c : Char) : Bool := c.isDigit || ('a' ≤ c && c ≤ 'f') || ('A' ≤ c && c ≤ 'F')

def digitValue (c : Char) : Nat :=
  if c.isDigit then c.toNat - '0'.toNat
  else if 'a' ≤ c then c.toNat - 'a'.toNat + 10
  else c.toNat - 'A'.toNat + 10

def inBase? (base : Nat) (digit : Char → Bool) (s : List Char) : Option Int := do
  let ds ← grouped digit s
  let n := ds.foldl (fun n c => n * base + digitValue c) 0
  if n ≤ Bounds.signed then some n else none

def integer? : List Char → Option Int
  | '0' :: 'x' :: r => inBase? 16 hexDigit r
  | '0' :: 'o' :: r => inBase? 8 (fun c => '0' ≤ c && c ≤ '7') r
  | '0' :: 'b' :: r => inBase? 2 (fun c => c == '0' || c == '1') r
  | s => decimal? s

def exponent? (s : List Char) : Option Int := do
  let (negative, r) := unsigned s
  let n := Nat.ofDigitChars 10 (← grouped Char.isDigit r) 0
  some (if negative then -(n : Int) else n)

def overflows (digits : List Char) (e : Int) : Bool :=
  let n := Nat.ofDigitChars 10 digits 0
  let lead := e + (Nat.toDigits 10 n).length
  if n = 0 || lead < 300 then false
  else if lead > 320 then true
  else Binary64.nearest (n * tenTo e.toNat) (tenTo (-e).toNat) = Binary64.infinite

def isReal (s : List Char) : Bool :=
  let (negative, r) := unsigned s
  if r = ['i', 'n', 'f'] || r = ['n', 'a', 'n'] then true
  else
    let part (c : Char) : Bool := c.isDigit || c == '_'
    let whole := wholeDigits (r.takeWhile part)
    let (fraction, r) : Option (List Char) × List Char :=
      match r.dropWhile part with
      | '.' :: r => (grouped Char.isDigit (r.takeWhile part), r.dropWhile part)
      | r => (some [], r)
    let e : Option (Option Int) :=
      match r with
      | [] => some none
      | 'e' :: r => (exponent? r).map some
      | 'E' :: r => (exponent? r).map some
      | _ => none
    match whole, fraction, e with
    | some whole, some fraction, some e =>
        (!fraction.isEmpty || e.isSome) &&
          (negative || !overflows (whole ++ fraction) (e.getD 0 - fraction.length))
    | _, _, _ => false

def two? (a b : Char) : Option Nat :=
  if a.isDigit && b.isDigit then some (digitValue a * 10 + digitValue b) else none

def within (low high : Nat) (n : Option Nat) : Bool := n.any fun n => low ≤ n && n ≤ high

def daysIn (year month : Nat) : Nat :=
  if month = 2 then if year % 4 = 0 && (year % 100 != 0 || year % 400 = 0) then 29 else 28
  else if month = 4 || month = 6 || month = 9 || month = 11 then 30
  else 31

def pastDate : List Char → Option (List Char)
  | a :: b :: c :: d :: '-' :: e :: f :: '-' :: g :: h :: r => do
      let year := (← two? a b) * 100 + (← two? c d)
      let month ← two? e f
      if within 1 12 (some month) && within 1 (daysIn year month) (two? g h) then some r else none
  | _ => none

def pastTime : List Char → Option (List Char)
  | a :: b :: ':' :: c :: d :: ':' :: e :: f :: r =>
      if within 0 23 (two? a b) && within 0 59 (two? c d) && within 0 60 (two? e f) then
        match r with
        | '.' :: r =>
            if (r.takeWhile Char.isDigit).isEmpty then none else some (r.dropWhile Char.isDigit)
        | r => some r
      else none
  | _ => none

def isOffset : List Char → Bool
  | [] => true
  | ['Z'] => true
  | ['z'] => true
  | [s, a, b, ':', c, d] => (s == '+' || s == '-') && within 0 23 (two? a b) && within 0 59 (two? c d)
  | _ => false

def isTimeAndOffset (s : List Char) : Bool := (pastTime s).any isOffset

def isDate (s : List Char) : Bool := pastDate s = some []

def isMoment (s : List Char) : Bool :=
  match pastDate s with
  | some [] => true
  | some (c :: r) => (c == 'T' || c == 't') && isTimeAndOffset r
  | none => pastTime s = some []

def ofText? (s : List Char) : Option Scalar :=
  if s = ['t', 'r', 'u', 'e'] then some (.flag true)
  else if s = ['f', 'a', 'l', 's', 'e'] then some (.flag false)
  else
    match integer? s with
    | some n => some (.integer n)
    | none => if isReal s then some .real else if isMoment s then some .moment else none

def isPart (c : Char) : Bool := c.isAlphanum || c == '+' || c == '-' || c == '_' || c == '.' || c == ':'

def read (s : List Char) : Option (Scalar × List Char) :=
  let token := s.takeWhile isPart
  let rest := s.dropWhile isPart
  let spaced : Option (List Char) :=
    match isDate token, rest with
    | true, ' ' :: r =>
        if isTimeAndOffset (r.takeWhile isPart) then some (r.dropWhile isPart) else none
    | _, _ => none
  match spaced with
  | some rest => some (.moment, rest)
  | none => (ofText? token).map (·, rest)

end Scalar
end Toml
end Fleet
