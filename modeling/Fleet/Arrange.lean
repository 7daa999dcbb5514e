/-! Arranging a list by a comparison. Entries that tie keep their order. -/
namespace Fleet
variable {α : Type}

def putBefore (le : α → α → Bool) (a : α) : List α → List α
  | [] => [a]
  | b :: rest => if le a b then a :: b :: rest else b :: putBefore le a rest

def arrange (le : α → α → Bool) : List α → List α
  | [] => []
  | a :: rest => putBefore le a (arrange le rest)

theorem putBeforePerm (le : α → α → Bool) (a : α) (l : List α) : (putBefore le a l).Perm (a :: l) := by
  induction l with
  | nil => exact .refl _
  | cons b rest ih =>
    unfold putBefore
    split
    · exact .refl _
    · exact (ih.cons b).trans (.swap a b rest)

theorem arrangePerm (le : α → α → Bool) (l : List α) : (arrange le l).Perm l := by
  induction l with
  | nil => exact .nil
  | cons a rest ih => exact (putBeforePerm le a _).trans (ih.cons a)

theorem putBeforeOrdered {le : α → α → Bool} (total : ∀ a b, le a b = false → le b a = true)
    (chain : ∀ a b c, le a b = true → le b c = true → le a c = true) (a : α) {l : List α}
    (h : l.Pairwise (fun x y => le x y = true)) :
    (putBefore le a l).Pairwise (fun x y => le x y = true) := by
  induction l with
  | nil => simp [putBefore]
  | cons b rest ih =>
    obtain ⟨first, tail⟩ := List.pairwise_cons.mp h
    unfold putBefore
    split
    · rename_i below
      refine List.pairwise_cons.mpr ⟨fun c hc => ?_, h⟩
      rcases List.mem_cons.mp hc with rfl | hc
      · exact below
      · exact chain a b c below (first c hc)
    · rename_i above
      refine List.pairwise_cons.mpr ⟨fun c hc => ?_, ih tail⟩
      rcases List.mem_cons.mp ((putBeforePerm le a rest).mem_iff.mp hc) with rfl | hc
      · exact total _ _ (by simpa using above)
      · exact first c hc

theorem arrangeOrdered {le : α → α → Bool} (total : ∀ a b, le a b = false → le b a = true)
    (chain : ∀ a b c, le a b = true → le b c = true → le a c = true) (l : List α) :
    (arrange le l).Pairwise (fun x y => le x y = true) := by
  induction l with
  | nil => exact .nil
  | cons a rest ih => exact putBeforeOrdered total chain a ih

end Fleet
