import Mathlib.Data.List.TakeWhile
import Fleet.Record.App

/-! The keys of an application's records. An index key tells the key of the application
and the index, whatever commas the name and the version hold: the digits stand behind the
last comma. The key of the application does not tell its name from its version. -/
namespace Fleet
namespace App

theorem digitsBehind (k : List Char) (i : Nat) :
    ((k ++ ',' :: Nat.toDigits 10 i).reverse).takeWhile (· ≠ ',') = (Nat.toDigits 10 i).reverse := by
  have plain : ∀ c ∈ (Nat.toDigits 10 i).reverse, decide (c ≠ ',') = true := by
    intro c member
    have digit := Nat.isDigit_of_mem_toDigits (by decide) (by decide) (List.mem_reverse.mp member)
    refine decide_eq_true ?_
    rintro rfl
    exact absurd digit (by decide)
  rw [List.reverse_append, List.reverse_cons, List.append_assoc, List.takeWhile_append_of_pos plain]
  simp

theorem indexKeySame {a b : App} {i j : Nat} (same : a.indexKey i = b.indexKey j) :
    a.key = b.key ∧ i = j := by
  have chars := congrArg String.toList same
  simp only [indexKey, String.toList_append, String.toList_ofList, List.append_assoc] at chars
  change a.key.toList ++ ',' :: Nat.toDigits 10 i = b.key.toList ++ ',' :: Nat.toDigits 10 j at chars
  have digits := congrArg (fun l => l.reverse.takeWhile (· ≠ ',')) chars
  simp only [digitsBehind, List.reverse_inj] at digits
  have index := congrArg (Nat.ofDigitChars 10 · 0) digits
  simp only [Nat.ofDigitChars_ten_toDigits] at index
  rw [digits] at chars
  exact ⟨String.ext (List.append_cancel_right chars), index⟩

end App
end Fleet
