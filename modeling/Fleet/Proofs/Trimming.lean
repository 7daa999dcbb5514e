import Mathlib.Data.List.TakeWhile
import Fleet.Text.Blank

/-! What trimming leaves of a text: what stands between the white space at its two ends. -/
namespace Fleet
namespace Text
variable {s lead core trail : List Char}

def Blank (s : List Char) : Prop := ∀ c ∈ s, isBlank c = true

instance : Decidable (Blank s) := List.decidableBAll (isBlank · = true) s

structure Tight (s : List Char) : Prop where
  first : ∀ c ∈ s.head?, isBlank c = false
  last : ∀ c ∈ s.getLast?, isBlank c = false

theorem trimStartBlank (blank : Blank s) : trimStart s = [] := List.dropWhile_eq_nil_iff.mpr blank

theorem trimStartOf (before : Blank lead) (first : ∀ c ∈ core.head?, isBlank c = false) :
    trimStart (lead ++ core) = core := by
  rw [trimStart, List.dropWhile_append_of_pos before]
  cases core with
  | nil => rfl
  | cons c rest => exact List.dropWhile_cons_of_neg (by simp [first c rfl])

theorem trimBlank (blank : Blank s) : trim s = [] := by
  rw [trim, trimStartBlank blank]
  rfl

theorem trimOf (before : Blank lead) (behind : Blank trail) (tight : Tight core) :
    trim (lead ++ (core ++ trail)) = core := by
  cases core with
  | nil => exact trimBlank fun c member => (List.mem_append.mp member).elim (before c) (behind c)
  | cons c rest =>
    have front : trimStart (lead ++ (c :: rest ++ trail)) = c :: rest ++ trail :=
      trimStartOf before tight.first
    have back : trimStart (trail.reverse ++ (c :: rest).reverse) = (c :: rest).reverse :=
      trimStartOf (fun c member => behind c (List.mem_reverse.mp member))
        (by rw [List.head?_reverse]; exact tight.last)
    rw [trim, front, List.reverse_append, back, List.reverse_reverse]

theorem trimStartSplit (s : List Char) : ∃ lead, s = lead ++ trimStart s ∧ Blank lead :=
  ⟨s.takeWhile isBlank, List.takeWhile_append_dropWhile.symm, fun _ => List.mem_takeWhile_imp⟩

theorem trimSplit (s : List Char) :
    ∃ lead trail, s = lead ++ (trim s ++ trail) ∧ Blank lead ∧ Blank trail := by
  obtain ⟨lead, front, before⟩ := trimStartSplit s
  obtain ⟨trail, back, behind⟩ := trimStartSplit (trimStart s).reverse
  refine ⟨lead, trail.reverse, ?_, before, fun c member => behind c (List.mem_reverse.mp member)⟩
  rw [trim, ← List.reverse_append, ← back, List.reverse_reverse, ← front]

theorem trimEmpty : trim s = [] ↔ Blank s := by
  refine ⟨fun empty => ?_, trimBlank⟩
  obtain ⟨lead, trail, split, before, behind⟩ := trimSplit s
  rw [empty, List.nil_append] at split
  rw [split]
  exact fun c member => (List.mem_append.mp member).elim (before c) (behind c)

theorem digitPlain {c : Char} (digit : c.isDigit = true) : isBlank c = false := by
  simp only [Char.isDigit, Bool.and_eq_true, decide_eq_true_eq, UInt32.le_iff_toNat_le] at digit
  have low : 48 ≤ c.toNat := digit.1
  have high : c.toNat ≤ 57 := digit.2
  simp [isBlank, inRanges, blankRanges]
  omega

end Text
end Fleet
