import Mathlib.Data.List.Forall2

/-! What comes of a list whose entries are mapped one after the other where each may fail:
all of them map, or the first that does not is what the whole fails with. -/
namespace Fleet
variable {α β ε : Type}

theorem mapMEach {f : α → Option β} {l : List α} {m : List β} (mapped : l.mapM f = some m) :
    List.Forall₂ (fun a b => f a = some b) l m := by
  induction l generalizing m with
  | nil =>
    cases mapped
    exact .nil
  | cons a l ih =>
    simp only [List.mapM_cons, Option.bind_eq_bind, Option.bind_eq_some_iff] at mapped
    obtain ⟨b, first, rest, others, same⟩ := mapped
    cases same
    exact .cons first (ih others)

section
variable {f : α → Except ε β} {l : List α}

theorem mapMOk {m : List β} : l.mapM f = .ok m ↔ List.Forall₂ (fun a b => f a = .ok b) l m := by
  constructor
  · intro mapped
    induction l generalizing m with
    | nil =>
      cases mapped
      exact .nil
    | cons a l ih =>
      rw [List.mapM_cons] at mapped
      cases first : f a with
      | error e =>
        rw [first] at mapped
        cases mapped
      | ok b =>
        cases rest : l.mapM f with
        | error e =>
          rw [first, rest] at mapped
          cases mapped
        | ok bs =>
          rw [first, rest] at mapped
          cases mapped
          exact .cons first (ih rest)
  · intro each
    induction each with
    | nil => rfl
    | cons first _ ih =>
      rw [List.mapM_cons, first, ih]
      rfl

theorem mapMError {e : ε} : l.mapM f = .error e ↔ ∃ front a rest, l = front ++ a :: rest ∧
    (∀ b ∈ front, ∃ c, f b = .ok c) ∧ f a = .error e := by
  constructor
  · intro failed
    induction l with
    | nil => cases failed
    | cons a l ih =>
      rw [List.mapM_cons] at failed
      cases first : f a with
      | error e' =>
        rw [first] at failed
        cases failed
        exact ⟨[], a, l, rfl, nofun, first⟩
      | ok b =>
        rw [first] at failed
        cases rest : l.mapM f with
        | ok bs =>
          rw [rest] at failed
          cases failed
        | error e' =>
          rw [rest] at failed
          cases failed
          obtain ⟨front, a', rest', rfl, read, fails⟩ := ih rest
          exact ⟨a :: front, a', rest', rfl, List.forall_mem_cons.mpr ⟨⟨b, first⟩, read⟩, fails⟩
  · rintro ⟨front, a, rest, rfl, read, fails⟩
    induction front with
    | nil =>
      rw [List.nil_append, List.mapM_cons, fails]
      rfl
    | cons b front ih =>
      obtain ⟨⟨c, first⟩, read⟩ := List.forall_mem_cons.mp read
      rw [List.cons_append, List.mapM_cons, first, ih read]
      rfl

end

theorem flatMapAt (l : Nat → List α) (i n : Nat) :
    ((List.range n).flatMap fun j => if j = i then l j else []) = if i < n then l i else [] := by
  induction n with
  | zero => rfl
  | succ n ih =>
    rw [List.range_succ, List.flatMap_append, ih, List.flatMap_singleton]
    rcases Nat.lt_trichotomy i n with below | rfl | above
    · simp [below, Nat.lt_succ_of_lt below, Nat.ne_of_gt below]
    · simp
    · simp [Nat.not_lt.mpr (Nat.le_of_lt above), Nat.not_lt.mpr above, Nat.ne_of_lt above]

theorem partsPerm {κ : Type} [DecidableEq κ] (key : α → κ) {ks : List κ} (distinct : ks.Nodup)
    {l : List α} (within : ∀ a ∈ l, key a ∈ ks) :
    (ks.flatMap fun k => l.filter (key · = k)).Perm l := by
  induction ks generalizing l with
  | nil =>
    cases l with
    | nil => exact .nil
    | cons a l => cases within a List.mem_cons_self
  | cons k ks ih =>
    obtain ⟨absent, distinct⟩ := List.nodup_cons.mp distinct
    have others : ∀ a ∈ l.filter fun a => !decide (key a = k), key a ∈ ks := by
      intro a member
      obtain ⟨listed, other⟩ := List.mem_filter.mp member
      exact List.mem_of_ne_of_mem (by simpa using other) (within a listed)
    have apart : ∀ j ∈ ks, (l.filter fun a => !decide (key a = k)).filter (key · = j) =
        l.filter (key · = j) := by
      intro j member
      have differ : ¬ j = k := fun same => absent (same ▸ member)
      rw [List.filter_filter]
      apply List.filter_congr
      intro a _
      by_cases here : key a = j <;> simp [here, differ]
    have rest := ih distinct others
    rw [List.flatMap_congr apart] at rest
    exact (rest.append_left _).trans (List.filter_append_perm _ l)

end Fleet
