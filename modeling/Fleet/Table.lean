/-! Finite tables whose entries stand in ascending order of their keys, one entry a
key. The order is part of the type, so two tables with the same look-ups are equal. -/
namespace Fleet

structure Table (κ : Type) [Ord κ] (α : Type) where
  entries : List (κ × α)
  ascending : entries.Pairwise (fun a b => compare a.1 b.1 = .lt)

namespace Table
variable {κ : Type} [Ord κ] {α β : Type}

def empty : Table κ α := ⟨[], .nil⟩

instance : Inhabited (Table κ α) := ⟨empty⟩

instance [DecidableEq κ] [DecidableEq α] : DecidableEq (Table κ α) := fun t u =>
  if h : t.entries = u.entries then
    isTrue (by cases t; cases u; simp_all)
  else isFalse (fun e => h (congrArg entries e))

def keys (t : Table κ α) : List κ := t.entries.map (·.1)

def values (t : Table κ α) : List α := t.entries.map (·.2)

def size (t : Table κ α) : Nat := t.entries.length

def isEmpty (t : Table κ α) : Bool := t.entries.isEmpty

def seek (k : κ) : List (κ × α) → Option α
  | [] => none
  | e :: rest => if compare k e.1 = .eq then some e.2 else seek k rest

def get? (t : Table κ α) (k : κ) : Option α := seek k t.entries

def contains (t : Table κ α) (k : κ) : Bool := (t.get? k).isSome

def place (k : κ) (v : α) : List (κ × α) → List (κ × α)
  | [] => [(k, v)]
  | e :: rest =>
      match compare k e.1 with
      | .lt => (k, v) :: e :: rest
      | .eq => (k, v) :: rest
      | .gt => e :: place k v rest

theorem memPlace {k : κ} {v : α} {l : List (κ × α)} {e : κ × α} (h : e ∈ place k v l) :
    e = (k, v) ∨ e ∈ l := by
  induction l with
  | nil => simpa [place] using h
  | cons a rest ih =>
    unfold place at h
    split at h
    · simpa using h
    · rcases List.mem_cons.mp h with h | h
      · exact .inl h
      · exact .inr (List.mem_cons_of_mem _ h)
    · rcases List.mem_cons.mp h with h | h
      · exact .inr (by simp [h])
      · rcases ih h with h | h
        · exact .inl h
        · exact .inr (List.mem_cons_of_mem _ h)

variable [Std.TransOrd κ] [Std.LawfulEqOrd κ]

theorem placeAscending (k : κ) (v : α) {l : List (κ × α)}
    (h : l.Pairwise (fun a b => compare a.1 b.1 = .lt)) :
    (place k v l).Pairwise (fun a b => compare a.1 b.1 = .lt) := by
  induction l with
  | nil => simp [place]
  | cons a rest ih =>
    obtain ⟨first, tail⟩ := List.pairwise_cons.mp h
    unfold place
    split
    · rename_i below
      refine List.pairwise_cons.mpr ⟨fun e he => ?_, h⟩
      rcases List.mem_cons.mp he with rfl | he
      · exact below
      · exact Std.TransCmp.lt_trans below (first e he)
    · rename_i same
      have : k = a.1 := Std.LawfulEqOrd.eq_of_compare same
      subst this
      exact List.pairwise_cons.mpr ⟨first, tail⟩
    · rename_i above
      refine List.pairwise_cons.mpr ⟨fun e he => ?_, ih tail⟩
      rcases memPlace he with rfl | he
      · exact Std.OrientedCmp.gt_iff_lt.mp above
      · exact first e he

def insert (t : Table κ α) (k : κ) (v : α) : Table κ α :=
  ⟨place k v t.entries, placeAscending k v t.ascending⟩

omit [Std.TransOrd κ] [Std.LawfulEqOrd κ] in
theorem filterAscending (p : κ × α → Bool) {l : List (κ × α)}
    (h : l.Pairwise (fun a b => compare a.1 b.1 = .lt)) :
    (l.filter p).Pairwise (fun a b => compare a.1 b.1 = .lt) := h.filter p

omit [Std.TransOrd κ] [Std.LawfulEqOrd κ] in
def erase (t : Table κ α) (k : κ) : Table κ α :=
  ⟨t.entries.filter (fun e => compare k e.1 != .eq), filterAscending _ t.ascending⟩

def ofList (l : List (κ × α)) : Table κ α := l.foldl (fun t e => t.insert e.1 e.2) empty

def alter (t : Table κ α) (k : κ) (f : Option α → α) : Table κ α := t.insert k (f (t.get? k))

omit [Std.TransOrd κ] [Std.LawfulEqOrd κ] in
@[simp] theorem getEmpty (k : κ) : (empty : Table κ α).get? k = none := rfl

variable [DecidableEq κ]

omit [Std.TransOrd κ] in
theorem seekPlace (k j : κ) (v : α) (l : List (κ × α)) :
    seek j (place k v l) = if j = k then some v else seek j l := by
  induction l with
  | nil => by_cases h : j = k <;> simp [place, seek, h]
  | cons a rest ih =>
    unfold place
    split
    · by_cases h : j = k <;> simp [seek, h]
    · rename_i same
      have : k = a.1 := Std.LawfulEqOrd.eq_of_compare same
      by_cases h : j = k <;> simp_all [seek]
    · rename_i above
      by_cases h : j = k
      · subst h; simp_all [seek]
      · simp_all [seek]

@[simp] theorem getInsert (t : Table κ α) (k j : κ) (v : α) :
    (t.insert k v).get? j = if j = k then some v else t.get? j := seekPlace k j v t.entries

omit [Std.TransOrd κ] in
theorem seekFilter (k j : κ) (l : List (κ × α)) :
    seek j (l.filter (fun e => compare k e.1 != .eq)) = if j = k then none else seek j l := by
  induction l with
  | nil => simp [seek]
  | cons a rest ih =>
    by_cases same : k = a.1
    · subst same
      by_cases h : j = a.1 <;> simp_all [seek]
    · have differ : compare k a.1 ≠ .eq := fun e => same (Std.LawfulEqOrd.eq_of_compare e)
      by_cases h : j = k
      · subst h; simp_all [seek]
      · simp_all [seek]

omit [Std.TransOrd κ] in
@[simp] theorem getErase (t : Table κ α) (k j : κ) :
    (t.erase k).get? j = if j = k then none else t.get? j := seekFilter k j t.entries

omit [DecidableEq κ] [Std.TransOrd κ] in
theorem seekSome {k : κ} {v : α} {l : List (κ × α)}
    (h : l.Pairwise (fun a b => compare a.1 b.1 = .lt)) :
    seek k l = some v ↔ (k, v) ∈ l := by
  induction l with
  | nil => simp [seek]
  | cons a rest ih =>
    obtain ⟨first, tail⟩ := List.pairwise_cons.mp h
    by_cases same : k = a.1
    · subst same
      have absent : (a.1, v) ∉ rest := fun m => by simpa using first _ m
      simp only [seek, Std.ReflCmp.compare_self, if_true, List.mem_cons, absent, or_false,
        Option.some.injEq]
      constructor
      · rintro rfl; rfl
      · intro e; exact (congrArg Prod.snd e).symm
    · have differ : compare k a.1 ≠ .eq := fun e => same (Std.LawfulEqOrd.eq_of_compare e)
      have other : (k, v) ≠ a := fun e => same (congrArg Prod.fst e)
      simp [seek, differ, ih tail, other]

omit [DecidableEq κ] [Std.TransOrd κ] in
theorem getSome (t : Table κ α) {k : κ} {v : α} : t.get? k = some v ↔ (k, v) ∈ t.entries :=
  seekSome t.ascending

omit [DecidableEq κ] [Std.LawfulEqOrd κ] in
theorem entriesExt {l r : List (κ × α)}
    (hl : l.Pairwise (fun a b => compare a.1 b.1 = .lt))
    (hr : r.Pairwise (fun a b => compare a.1 b.1 = .lt))
    (same : ∀ e, e ∈ l ↔ e ∈ r) : l = r := by
  induction l generalizing r with
  | nil =>
    cases r with
    | nil => rfl
    | cons b _ => exact absurd ((same b).mpr (by simp)) (by simp)
  | cons a l ih =>
    cases r with
    | nil => exact absurd ((same a).mp (by simp)) (by simp)
    | cons b r =>
      obtain ⟨la, lt⟩ := List.pairwise_cons.mp hl
      obtain ⟨ra, rt⟩ := List.pairwise_cons.mp hr
      have head : a = b := by
        rcases List.mem_cons.mp ((same a).mp (by simp)) with h | h
        · exact h
        · rcases List.mem_cons.mp ((same b).mpr (by simp)) with h' | h'
          · exact h'.symm
          · have one := la b h'
            have two := ra a h
            exact absurd (Std.TransCmp.lt_trans one two) (by simp)
      subst head
      congr 1
      refine ih lt rt (fun e => ?_)
      have distinct : ∀ {m : List (κ × α)}, (∀ x ∈ m, compare a.1 x.1 = .lt) → a ∉ m :=
        fun h m => by simpa using h a m
      constructor
      · intro h
        rcases List.mem_cons.mp ((same e).mp (List.mem_cons_of_mem _ h)) with rfl | h'
        · exact absurd h (distinct la)
        · exact h'
      · intro h
        rcases List.mem_cons.mp ((same e).mpr (List.mem_cons_of_mem _ h)) with rfl | h'
        · exact absurd h (distinct ra)
        · exact h'

omit [DecidableEq κ] in
theorem ext {t u : Table κ α} (h : ∀ k, t.get? k = u.get? k) : t = u := by
  have : t.entries = u.entries := by
    refine entriesExt t.ascending u.ascending (fun e => ?_)
    rw [← t.getSome, ← u.getSome, h]
  cases t; cases u; simp_all

end Table

end Fleet
