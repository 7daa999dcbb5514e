/-! The ranges of counts (32 bits), of instants, ids and counters (64 bits), of the integers
that the settings format holds (63 bits) and of ports, and the arithmetic that stays inside
them: a sum or product either holds at the top of its range or is refused with an
`Overflow`. Subtraction stops at zero, as it does on natural numbers. -/
namespace Fleet

namespace Bounds

def port : Nat := 65535

def count : Nat := 4294967295

def instant : Nat := 18446744073709551615

def signed : Nat := 9223372036854775807

end Bounds

inductive Overflow where
  | sum
  | product
  deriving DecidableEq, Repr

def Overflow.message : Overflow → String
  | .sum => "attempt to add with overflow"
  | .product => "attempt to multiply with overflow"

def exactSum (a b : Nat) : Except Overflow Nat :=
  if a + b ≤ Bounds.instant then .ok (a + b) else .error .sum

def exactProduct (a b : Nat) : Except Overflow Nat :=
  if a * b ≤ Bounds.instant then .ok (a * b) else .error .product

def after (now span : Nat) : Nat := min (now + span) Bounds.instant

def repeated (n span : Nat) : Nat := min (n * span) Bounds.instant

theorem exactSumOk {a b c : Nat} : exactSum a b = .ok c ↔ a + b ≤ Bounds.instant ∧ c = a + b := by
  unfold exactSum
  split
  · rename_i fits
    exact ⟨fun h => ⟨fits, (Except.ok.inj h).symm⟩, fun h => by rw [h.2]⟩
  · rename_i large
    exact ⟨(nomatch ·), fun h => absurd h.1 large⟩

theorem afterLe (now span : Nat) : after now span ≤ Bounds.instant := Nat.min_le_right _ _

end Fleet
