import Mathlib.Data.List.TakeWhile
import Fleet.Numeral

/-! Words at the front of a text, and numbers among them: what stands behind a word is no part
of it, and the decimal digits of a number read as that number. -/
namespace Fleet

def EndsWord (p : Char → Bool) (rest : List Char) : Prop := ∀ c ∈ rest.head?, p c = false

section
variable {p q : Char → Bool} {c : Char} {word rest : List Char}

theorem classesApart {d : Char} (inside : p c = true) (outside : p d = false) : c ≠ d := by
  rintro rfl
  rw [inside] at outside
  cases outside

@[simp] theorem endsWordNil : EndsWord p [] := nofun

@[simp] theorem endsWordCons : EndsWord p (c :: rest) ↔ p c = false := by
  simp [EndsWord]

theorem EndsWord.weaken (ends : EndsWord q rest) (below : ∀ c, p c = true → q c = true) :
    EndsWord p rest := by
  intro c first
  cases inside : p c with
  | false => rfl
  | true => exact absurd (below c inside) (by rw [ends c first]; decide)

theorem EndsWord.takeWhile (ends : EndsWord p rest) : rest.takeWhile p = [] := by
  cases rest with
  | nil => rfl
  | cons c rest => exact List.takeWhile_cons_of_neg (by rw [endsWordCons.mp ends]; decide)

theorem EndsWord.dropWhile (ends : EndsWord p rest) : rest.dropWhile p = rest := by
  cases rest with
  | nil => rfl
  | cons c rest => exact List.dropWhile_cons_of_neg (by rw [endsWordCons.mp ends]; decide)

theorem takeWord (all : ∀ c ∈ word, p c = true) (ends : EndsWord p rest) :
    (word ++ rest).takeWhile p = word := by
  rw [List.takeWhile_append_of_pos all, ends.takeWhile, List.append_nil]

theorem dropWord (all : ∀ c ∈ word, p c = true) (ends : EndsWord p rest) :
    (word ++ rest).dropWhile p = rest := by
  rw [List.dropWhile_append_of_pos all, ends.dropWhile]

end

namespace Numeral
variable {rest : List Char}

theorem decimalDigits (n : Nat) : ∀ c ∈ Nat.toDigits 10 n, c.isDigit = true :=
  fun _ member => Nat.isDigit_of_mem_toDigits (by decide) (by decide) member

theorem digitsOnly {c : Char} (other : c.isDigit = false) (n : Nat) : c ∉ Nat.toDigits 10 n :=
  fun member => classesApart (decimalDigits n c member) other rfl

theorem digitsTaken (n : Nat) (ends : EndsWord Char.isDigit rest) :
    digits (Nat.toDigits 10 n ++ rest) = Nat.toDigits 10 n := takeWord (decimalDigits n) ends

theorem digitsPassed (n : Nat) (ends : EndsWord Char.isDigit rest) :
    pastDigits (Nat.toDigits 10 n ++ rest) = rest := dropWord (decimalDigits n) ends

theorem firstDigit (n : Nat) (nonzero : n ≠ 0) :
    ∃ c more, Nat.toDigits 10 n = c :: more ∧ c.isDigit = true ∧ c ≠ '0' := by
  induction n using Nat.strongRecOn with
  | _ n ih =>
    rw [Nat.toDigits_eq_if (by decide)]
    split
    · rename_i small
      refine ⟨_, [], rfl, ?_, ?_⟩
      · rw [Nat.isDigit_digitChar, decide_eq_true small]
      · rwa [ne_eq, Nat.digitChar_eq_zero]
    · obtain ⟨c, more, front, digit, zero⟩ := ih (n / 10) (by omega) (by omega)
      exact ⟨c, _, by rw [front, List.cons_append], digit, zero⟩

theorem lexWholeDigits (n : Nat) (ends : EndsWord Char.isDigit rest) :
    lexWhole (Nat.toDigits 10 n ++ rest) = some (n, rest) := by
  by_cases zero : n = 0
  · subst zero
    have none : digits rest = [] := ends.takeWhile
    simp [lexWhole, none]
  obtain ⟨c, more, front, _, first⟩ := firstDigit n zero
  have taken := digitsTaken n ends
  have passed := digitsPassed n ends
  rw [front] at taken passed
  have read : Nat.ofDigitChars 10 (c :: more) 0 = n := by
    rw [← front, Nat.ofDigitChars_ten_toDigits]
  rw [front, lexWhole, taken, passed, read]
  · rfl
  · rintro r same
    exact first (List.cons.inj same).1

end Numeral
end Fleet
