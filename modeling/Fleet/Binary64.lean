import Fleet.Bounds
import Fleet.Powers

/-! Values of the 64-bit binary floating format, held as a sign and a magnitude: the
number that the exponent bits and the fraction bits spell together. The magnitude
orders the values, and every operation is the exact result rounded once, to the
nearest value and from halfway to the even one. -/
namespace Fleet

structure Binary64 where
  negative : Bool
  magnitude : Nat
  deriving DecidableEq, Repr, Inhabited

namespace Binary64

def leadingBit : Nat := 4503599627370496

/-- The magnitude of the infinities; above it stand the magnitudes that name no number. -/
def infinite : Nat := 2047 * leadingBit

def zero : Binary64 := ⟨false, 0⟩
def infinity (negative : Bool) : Binary64 := ⟨negative, infinite⟩
def notANumber : Binary64 := ⟨false, infinite + leadingBit / 2⟩

def isFinite (x : Binary64) : Bool := x.magnitude < infinite

def significand (magnitude : Nat) : Nat :=
  if magnitude < leadingBit then magnitude else magnitude % leadingBit + leadingBit

def exponent (magnitude : Nat) : Int :=
  if magnitude < leadingBit then -1074 else (magnitude / leadingBit : Nat) - 1075

def halfEven (num den : Nat) : Nat :=
  let whole := num / den
  match compare (2 * (num % den)) den with
  | .lt => whole
  | .gt => whole + 1
  | .eq => if whole % 2 = 0 then whole else whole + 1

def place (num den : Nat) : Int :=
  let guess : Int := (num.log2 : Int) - den.log2
  let floor := if den * twoTo guess.toNat ≤ num * twoTo (-guess).toNat then guess else guess - 1
  max (floor - 52) (-1074)

def nearest (num den : Nat) : Nat :=
  if num = 0 then 0
  else
    let q := place num den
    let m := halfEven (num * twoTo (-q).toNat) (den * twoTo q.toNat)
    min ((q + 1074).toNat * leadingBit + m) infinite

def ofNat (n : Nat) : Binary64 := ⟨false, nearest n 1⟩

def ofRatio (num den : Nat) : Binary64 := ⟨false, nearest num den⟩

def times (a b : Nat) : Nat :=
  let q := exponent a + exponent b
  nearest (significand a * significand b * twoTo q.toNat) (twoTo (-q).toNat)

def divide (a b : Nat) : Nat :=
  let q := exponent a - exponent b
  nearest (significand a * twoTo q.toNat) (significand b * twoTo (-q).toNat)

/-- The rank of a value in the total order: negative before positive, and among each
by magnitude, so that `-0.0` stands right before `0.0`. -/
def rank (x : Binary64) : Int := if x.negative then -(x.magnitude : Int) - 1 else x.magnitude

def totalOrder (x y : Binary64) : Ordering := compare x.rank y.rank

theorem rankInjective {x y : Binary64} (h : x.rank = y.rank) : x = y := by
  rcases x with ⟨_ | _, a⟩ <;> rcases y with ⟨_ | _, b⟩ <;> simp_all [rank] <;> omega

end Binary64

end Fleet
