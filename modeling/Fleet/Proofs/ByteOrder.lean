import Mathlib.Data.String.Basic
import Fleet.Record.App

/-! The order of applications is that of the bytes of their names and versions. Texts are
compared character by character; but a larger character has the larger bytes, as the first one
tells how many there are, and the others are digits behind it. -/
namespace Fleet

def bytes (s : String) : List UInt8 := s.toUTF8.data.toList

theorem bytesOf (s : String) : bytes s = s.toList.flatMap String.utf8EncodeChar := by
  have written : s.toByteArray = s.toList.utf8Encode := by
    rw [← String.toByteArray_ofList, String.ofList_toList]
  rw [bytes, String.toUTF8, written, List.utf8Encode, List.data_toByteArray]

theorem charBelow {c d : Char} (below : c < d) (l m : List UInt8) :
    String.utf8EncodeChar c ++ l < String.utf8EncodeChar d ++ m := by
  have codes : c.val.toNat < d.val.toNat := below
  have range : d.val.toNat < 1114112 := by rcases d.valid with low | high <;> omega
  have third (n : Nat) : n / 4096 = n / 64 / 64 := (Nat.div_div_eq_div_mul n 64 64).symm
  have fourth (n : Nat) : n / 262144 = n / 64 / 64 / 64 := by
    rw [Nat.div_div_eq_div_mul, Nat.div_div_eq_div_mul]
  simp only [String.utf8EncodeChar]
  generalize c.val.toNat = x at *
  generalize d.val.toNat = y at *
  -- One case for each pair of lengths: the first bytes differ, or digit by digit `x` is below `y`.
  repeat' split
  all_goals
    simp only [List.cons_append, List.nil_append, List.cons_lt_cons_iff, UInt8.lt_iff_toNat_lt,
      ← UInt8.toNat_inj, UInt8.toNat_ofNat', Nat.reducePow]
    simp (disch := omega) only [Nat.mod_eq_of_lt, third, fourth]
    omega

theorem charsBelow {l m : List Char} (below : l < m) :
    l.flatMap String.utf8EncodeChar < m.flatMap String.utf8EncodeChar := by
  induction l generalizing m with
  | nil =>
    cases m with
    | nil => exact absurd below (List.not_lt_nil _)
    | cons d m =>
      obtain ⟨first, rest, some⟩ := List.exists_cons_of_ne_nil (String.utf8EncodeChar_ne_nil (c := d))
      rw [List.flatMap_nil, List.flatMap_cons, some]
      exact List.nil_lt_cons _ _
  | cons c l ih =>
    cases m with
    | nil => exact absurd below (List.not_lt_nil _)
    | cons d m =>
      rw [List.flatMap_cons, List.flatMap_cons]
      rcases List.cons_lt_cons_iff.mp below with first | ⟨same, rest⟩
      · exact charBelow first _ _
      · subst same
        exact List.append_left_lt (ih rest)

theorem bytesBelow {a b : String} : bytes a < bytes b ↔ a < b := by
  rw [bytesOf, bytesOf]
  constructor
  · intro below
    rcases lt_trichotomy a b with less | same | more
    · exact less
    · subst same
      exact absurd below (List.lt_irrefl _)
    · exact absurd below (List.lt_asymm (charsBelow (String.lt_iff.mp more)))
  · intro less
    exact charsBelow (String.lt_iff.mp less)

namespace App

def Before (a b : App) : Prop :=
  bytes a.id < bytes b.id ∨ a.id = b.id ∧ bytes a.version < bytes b.version

theorem compareBefore {a b : App} : compare a b = .lt ↔ a.Before b := by
  have parts : compare a b = (compare a.id b.id).then (compare a.version b.version) := rfl
  have less (s t : String) : compare s t = .lt ↔ s < t := compareOfLessAndEq_eq_lt
  rw [parts, Ordering.then_eq_lt, less, less, Std.LawfulEqOrd.compare_eq_iff_eq, Before, bytesBelow,
    bytesBelow]

end App
end Fleet
