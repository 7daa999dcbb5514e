import Fleet.Binary64

/-! Decimal numerals as JSON writes them, their text, and the two ways of reading
them: as an integer within a bound, and as a binary floating value. The second way is
fast and not always the nearest value: it gathers the digits that fit 64 bits and
then multiplies or divides once by a power of ten. -/
namespace Fleet

structure Numeral where
  negative : Bool
  whole : Nat
  fraction : List (Fin 10)
  exponent : Option Int
  deriving DecidableEq, Repr

namespace Numeral

def ofNat (n : Nat) : Numeral := ⟨false, n, [], none⟩

def digitChar (d : Fin 10) : Char := Nat.digitChar d.val

def digitOf (c : Char) : Fin 10 := Fin.ofNat 10 (c.toNat - '0'.toNat)

def exponentText (e : Int) : List Char :=
  'e' :: (if e < 0 then '-' else '+') :: Nat.toDigits 10 e.natAbs

def text (n : Numeral) : List Char :=
  (if n.negative then ['-'] else []) ++ Nat.toDigits 10 n.whole ++
    (if n.fraction.isEmpty then [] else '.' :: n.fraction.map digitChar) ++
    (match n.exponent with
      | none => []
      | some e => exponentText e)

def digits (s : List Char) : List Char := s.takeWhile Char.isDigit

def pastDigits (s : List Char) : List Char := s.dropWhile Char.isDigit

def lexWhole : List Char → Option (Nat × List Char)
  | '0' :: r => if (digits r).isEmpty then some (0, r) else none
  | s => if (digits s).isEmpty then none else some (Nat.ofDigitChars 10 (digits s) 0, pastDigits s)

def lexFraction : List Char → Option (List (Fin 10) × List Char)
  | '.' :: r => if (digits r).isEmpty then none else some ((digits r).map digitOf, pastDigits r)
  | s => some ([], s)

def lexDigits (negative : Bool) (s : List Char) : Option (Option Int × List Char) :=
  if (digits s).isEmpty then none
  else
    let n := Nat.ofDigitChars 10 (digits s) 0
    some (some (if negative then -(n : Int) else n), pastDigits s)

def lexSigned : List Char → Option (Option Int × List Char)
  | '-' :: r => lexDigits true r
  | '+' :: r => lexDigits false r
  | r => lexDigits false r

def lexExponent : List Char → Option (Option Int × List Char)
  | 'e' :: r => lexSigned r
  | 'E' :: r => lexSigned r
  | s => some (none, s)

def lexUnsigned (negative : Bool) (s : List Char) : Option (Numeral × List Char) := do
  let (whole, r) ← lexWhole s
  let (fraction, r) ← lexFraction r
  let (exponent, r) ← lexExponent r
  some (⟨negative, whole, fraction, exponent⟩, r)

def lex : List Char → Option (Numeral × List Char)
  | '-' :: r => lexUnsigned true r
  | s => lexUnsigned false s

def toNat? (bound : Nat) (n : Numeral) : Option Nat :=
  if n.negative = false ∧ n.fraction = [] ∧ n.exponent = none ∧ n.whole ≤ bound then some n.whole
  else none

def leading (n : Nat) : Nat × Nat :=
  if n ≤ Bounds.instant then (n, 0)
  else
    let r := leading (n / 10)
    (r.1, r.2 + 1)
termination_by n
decreasing_by simp only [Bounds.instant] at *; omega

def gather (held taken : Nat) : List (Fin 10) → Nat × Nat
  | [] => (held, taken)
  | d :: ds =>
      if held * 10 + d.val ≤ Bounds.instant then gather (held * 10 + d.val) (taken + 1) ds
      else (held, taken)

def stride : Nat := 308

def power (n : Nat) : Nat := Binary64.nearest (tenTo n) 1

def shrink (f n : Nat) : Nat :=
  if n ≤ stride then Binary64.divide f (power n)
  else if f = 0 then 0
  else shrink (Binary64.divide f (power stride)) (n - stride)
termination_by n
decreasing_by simp only [stride] at *; omega

def scale (f : Nat) (e : Int) : Option Nat :=
  if 0 ≤ e then
    if e.toNat ≤ stride then
      let r := Binary64.times f (power e.toNat)
      if r < Binary64.infinite then some r else none
    else if f = 0 then some 0 else none
  else some (shrink f (-e).toNat)

def toBinary? (n : Numeral) : Option Binary64 :=
  let whole := leading n.whole
  let all := gather whole.1 0 n.fraction
  let e : Int := (whole.2 : Int) - all.2 + n.exponent.getD 0
  (scale (Binary64.nearest all.1 1) e).map (⟨n.negative, ·⟩)

@[simp] theorem toNatOfNat {n bound : Nat} (h : n ≤ bound) : (ofNat n).toNat? bound = some n := by
  simp [ofNat, toNat?, h]

end Numeral

end Fleet
