import Fleet.Store.Rows
import Fleet.Proofs.Lists
import Mathlib.Data.List.Nodup

/-! What a table of records holds after each operation, and what a scan of it returns.
A table keeps its records under their own keys when no row reads as a record of
another key; this is what makes the keys of a scan the keys of the table. -/
namespace Fleet
namespace Rows
variable {α : Type}

theorem putCons (key : α → String) (t : Rows α) (r : α) (rs : List α) :
    put key t (r :: rs) = put key (t.insert (key r) (.held r)) rs := rfl

theorem putAppend (key : α → String) (t : Rows α) (rs rs' : List α) :
    put key t (rs ++ rs') = put key (put key t rs) rs' := List.foldl_append

theorem getPut (key : α → String) (t : Rows α) (rs : List α) (k : String) :
    (put key t rs).get? k = ((rs.filter (key · = k)).getLast?.map .held).or (t.get? k) := by
  induction rs generalizing t with
  | nil => rfl
  | cons r rs ih =>
    rw [putCons, ih, Table.getInsert]
    by_cases same : key r = k
    · cases last : (rs.filter (key · = k)).getLast? <;> simp [same, List.getLast?_cons, last]
    · have other : k ≠ key r := fun e => same e.symm
      simp [same, other]

theorem getPutOther {key : α → String} {t : Rows α} {rs : List α} {k : String}
    (other : ∀ r ∈ rs, key r ≠ k) : (put key t rs).get? k = t.get? k := by
  have none : rs.filter (key · = k) = [] := List.filter_eq_nil_iff.mpr (by simpa using other)
  rw [getPut, none]
  rfl

theorem getPutSome {key : α → String} {t : Rows α} {rs : List α} {k : String}
    (written : ∃ r ∈ rs, key r = k) : ∃ r ∈ rs, key r = k ∧ (put key t rs).get? k = some (.held r) := by
  cases last : (rs.filter (key · = k)).getLast? with
  | none =>
    obtain ⟨r, member, same⟩ := written
    have here : r ∈ rs.filter (key · = k) := List.mem_filter.mpr ⟨member, decide_eq_true same⟩
    rw [List.getLast?_eq_none_iff.mp last] at here
    cases here
  | some r =>
    obtain ⟨member, same⟩ := List.mem_filter.mp (List.mem_of_getLast? last)
    refine ⟨r, member, of_decide_eq_true same, ?_⟩
    rw [getPut, last]
    rfl

theorem putAgain (key : α → String) (t : Rows α) (rs : List α) :
    put key (put key t rs) rs = put key t rs := by
  refine Table.ext fun k => ?_
  rw [getPut, getPut, ← Option.or_assoc, Option.or_self]

theorem getRemove (t : Rows α) (ks : List String) (k : String) :
    (remove t ks).2.get? k = if k ∈ ks then none else t.get? k := by
  induction ks generalizing t with
  | nil => simp [remove]
  | cons j ks ih =>
    rw [remove, ih, Table.getErase]
    by_cases first : k = j <;> by_cases later : k ∈ ks <;> simp [first, later]

theorem memKeys {κ β : Type} [Ord κ] [Std.LawfulEqOrd κ] {t : Table κ β} {k : κ} :
    k ∈ t.keys ↔ ∃ v, t.get? k = some v := by
  simp only [Table.keys, List.mem_map, Table.getSome]
  exact ⟨fun ⟨e, member, same⟩ => ⟨e.2, same ▸ member⟩, fun ⟨v, member⟩ => ⟨_, member, rfl⟩⟩

theorem keysDistinct {κ β : Type} [Ord κ] [Std.TransOrd κ] (t : Table κ β) : t.keys.Nodup := by
  refine List.pairwise_map.mpr (t.ascending.imp ?_)
  intro a b below same
  rw [same] at below
  simp at below

theorem eraseEntries {β : Type} (t : Table String β) (k : String) :
    (t.erase k).entries = t.entries.filter fun e => e.1 ≠ k := by
  refine List.filter_congr fun e _ => ?_
  by_cases same : k = e.1
  · simp [same]
  · have differ : compare k e.1 ≠ .eq := fun is => same (Std.LawfulEqOrd.eq_of_compare is)
    simp [differ, Ne.symm same]

theorem eraseSize {β : Type} (t : Table String β) (k : String) :
    (t.erase k).size + (if t.contains k then 1 else 0) = t.size := by
  have held : t.contains k = true ↔ k ∈ t.keys := by
    rw [memKeys, Table.contains, Option.isSome_iff_exists]
  have once := List.Nodup.count (a := k) (keysDistinct t)
  rw [List.count_eq_countP, Table.keys, List.countP_map] at once
  have parts := t.entries.length_eq_countP_add_countP fun e => e.1 == k
  simp only [Table.size, eraseEntries, held, ← List.countP_eq_length_filter, Table.keys]
  simp only [Function.comp_def, beq_iff_eq] at once parts
  rw [parts, once, Nat.add_comm]

theorem removeEntries (t : Rows α) (ks : List String) :
    (remove t ks).2.entries = t.entries.filter fun e => e.1 ∉ ks := by
  induction ks generalizing t with
  | nil => simp [remove]
  | cons k ks ih =>
    rw [remove, ih, eraseEntries, List.filter_filter]
    refine List.filter_congr fun e _ => ?_
    simp [Bool.and_comm]

theorem removeSize (t : Rows α) (ks : List String) : (remove t ks).1 + (remove t ks).2.size = t.size := by
  induction ks generalizing t with
  | nil => exact Nat.zero_add _
  | cons k ks ih =>
    have first := eraseSize t k
    have rest := ih (t.erase k)
    simp only [remove]
    omega

theorem pairedLeft {β : Type} {R : α → β → Prop} {l : List α} {m : List β}
    (h : List.Forall₂ R l m) {a : α} (member : a ∈ l) : ∃ b ∈ m, R a b := by
  induction h with
  | nil => simp at member
  | cons first rest ih =>
    rcases List.mem_cons.mp member with rfl | later
    · exact ⟨_, List.mem_cons_self, first⟩
    · obtain ⟨b, there, related⟩ := ih later
      exact ⟨b, List.mem_cons_of_mem _ there, related⟩

variable [Record α]

theorem readHeld {r a : α} : (Row.held r).read = .ok a ↔ Record.settle r = some a := by
  cases h : Record.settle r <;> simp [Row.read, h]

theorem scanPairs {t : Rows α} {rs : List α} (h : t.scan = .ok rs) :
    List.Forall₂ (fun e r => e.2.read = .ok r) t.entries rs :=
  List.forall₂_map_left_iff.mp (mapMOk.mp h)

theorem memScan {t : Rows α} {rs : List α} (h : t.scan = .ok rs) {r : α} :
    r ∈ rs ↔ ∃ k row, t.get? k = some row ∧ row.read = .ok r := by
  constructor
  · intro member
    obtain ⟨e, inTable, reads⟩ := pairedLeft (scanPairs h).flip member
    exact ⟨e.1, e.2, t.getSome.mpr inTable, reads⟩
  · rintro ⟨k, row, found, reads⟩
    obtain ⟨r', member, reads'⟩ := pairedLeft (scanPairs h) (t.getSome.mp found)
    rw [reads] at reads'
    cases reads'
    exact member

theorem scanReads {t : Rows α} {rs : List α} (h : t.scan = .ok rs) {k : String} {row : Row α}
    (found : t.get? k = some row) : ∃ r ∈ rs, row.read = .ok r := by
  obtain ⟨r, member, reads⟩ := pairedLeft (scanPairs h) (t.getSome.mp found)
  exact ⟨r, member, reads⟩

omit [Record α] in
theorem memKeysPut {key : α → String} {t : Rows α} {rs : List α} {k : String} :
    k ∈ (put key t rs).keys ↔ k ∈ rs.map key ∨ k ∈ t.keys := by
  simp only [memKeys, List.mem_map]
  by_cases written : ∃ r ∈ rs, key r = k
  · obtain ⟨r, _, _, found⟩ := getPutSome (t := t) written
    exact ⟨fun _ => .inl written, fun _ => ⟨_, found⟩⟩
  · rw [getPutOther fun r member same => written ⟨r, member, same⟩]
    exact ⟨.inr, fun h => h.resolve_left written⟩

def Readable (t : Rows α) : Prop := ∀ k row, t.get? k = some row → ∃ r, row.read = .ok r

theorem readableEmpty : Readable (.empty : Rows α) := by
  intro k row found
  simp at found

theorem readableScan {t : Rows α} (readable : Readable t) : ∃ rs, t.scan = .ok rs := by
  have each : ∀ row ∈ t.values, ∃ r, row.read = .ok r := by
    intro row member
    obtain ⟨e, inTable, rfl⟩ := List.mem_map.mp member
    exact readable e.1 e.2 (t.getSome.mpr inTable)
  cases scanned : t.scan with
  | ok rs => exact ⟨rs, rfl⟩
  | error e =>
    obtain ⟨front, row, rest, split, _, failed⟩ := mapMError.mp scanned
    obtain ⟨r, reads⟩ := each row (split ▸ List.mem_append_right front List.mem_cons_self)
    cases reads.symm.trans failed

theorem scanReadable {t : Rows α} {rs : List α} (h : t.scan = .ok rs) : Readable t := by
  intro k row found
  obtain ⟨r, _, reads⟩ := scanReads h found
  exact ⟨r, reads⟩

theorem readablePut {key : α → String} {t : Rows α} (readable : Readable t) {rs : List α}
    (each : ∀ r ∈ rs, ∃ a, Record.settle r = some a) : Readable (put key t rs) := by
  intro k row found
  by_cases written : ∃ r ∈ rs, key r = k
  · obtain ⟨r, member, _, found'⟩ := getPutSome (t := t) written
    rw [found'] at found
    cases found
    obtain ⟨a, settles⟩ := each r member
    exact ⟨a, readHeld.mpr settles⟩
  · rw [getPutOther fun r member same => written ⟨r, member, same⟩] at found
    exact readable k row found

theorem readableRemove {t : Rows α} (readable : Readable t) (ks : List String) :
    Readable (remove t ks).2 := by
  intro k row found
  rw [getRemove] at found
  split at found
  · cases found
  · exact readable k row found

def Own (key : α → String) (t : Rows α) : Prop :=
  ∀ k row r, t.get? k = some row → row.read = .ok r → key r = k

variable {key : α → String}

theorem ownEmpty : Own key (.empty : Rows α) := by
  intro k row r found
  simp at found

theorem scanOwned {t : Rows α} (own : Own key t) {rs : List α} (h : t.scan = .ok rs) :
    List.Forall₂ (fun e r => e.2.read = .ok r ∧ key r = e.1) t.entries rs := by
  obtain ⟨length, each⟩ := List.forall₂_iff_zip.mp (scanPairs h)
  refine List.forall₂_iff_zip.mpr ⟨length, fun {e r} pair => ⟨each pair, ?_⟩⟩
  exact own e.1 e.2 r (t.getSome.mpr (List.of_mem_zip pair).1) (each pair)

theorem ownScan {t : Rows α} (own : Own key t) {rs : List α} (h : t.scan = .ok rs) :
    rs.map key = t.keys := by
  have same : List.Forall₂ (· = ·) (rs.map key) (t.entries.map (·.1)) :=
    List.forall₂_map_left_iff.mpr (List.forall₂_map_right_iff.mpr
      ((scanOwned own h).flip.imp fun _ _ pair => pair.2))
  rwa [List.forall₂_eq_eq_eq] at same

theorem ownScanDistinct {t : Rows α} (own : Own key t) {rs : List α} (h : t.scan = .ok rs) :
    (rs.map key).Nodup := ownScan own h ▸ keysDistinct t

theorem ownFound {t : Rows α} (own : Own key t) {rs : List α} (h : t.scan = .ok rs) {r : α}
    (member : r ∈ rs) : ∃ row, t.get? (key r) = some row ∧ row.read = .ok r := by
  obtain ⟨k, row, found, reads⟩ := (memScan h).mp member
  exact ⟨row, own k row r found reads ▸ found, reads⟩

theorem ownPut (keeps : ∀ r a : α, Record.settle r = some a → key a = key r) {t : Rows α}
    (own : Own key t) (rs : List α) : Own key (put key t rs) := by
  intro k row r found reads
  by_cases written : ∃ r ∈ rs, key r = k
  · obtain ⟨r', _, same, found'⟩ := getPutSome (t := t) written
    rw [found'] at found
    cases found
    rw [keeps r' r (readHeld.mp reads), same]
  · rw [getPutOther (fun a ha e => written ⟨a, ha, e⟩)] at found
    exact own k row r found reads

theorem ownRemove {t : Rows α} (own : Own key t) (ks : List String) : Own key (remove t ks).2 := by
  intro k row r found reads
  rw [getRemove] at found
  split at found
  · cases found
  · exact own k row r found reads

theorem scanRemoved {t : Rows α} (own : Own key t) {rs : List α} (h : t.scan = .ok rs) (ks : List String) :
    (remove t ks).2.scan = .ok (rs.filter fun r => key r ∉ ks) := by
  have kept : List.Forall₂ (fun e r => e.2.read = .ok r ∧ key r = e.1)
      (t.entries.filter fun e => e.1 ∉ ks) (rs.filter fun r => key r ∉ ks) :=
    List.rel_filter (fun {e r} pair => by simp only [pair.2]) (scanOwned own h)
  rw [← removeEntries] at kept
  exact mapMOk.mpr (List.forall₂_map_left_iff.mpr (kept.imp fun _ _ pair => pair.1))

omit [Record α] in
theorem memOfKey {l m : List α} (distinct : (l.map key).Nodup) (inside : ∀ a ∈ m, a ∈ l) {r : α}
    (member : r ∈ l) : key r ∈ m.map key ↔ r ∈ m := by
  refine ⟨fun h => ?_, fun h => List.mem_map.mpr ⟨r, h, rfl⟩⟩
  obtain ⟨a, there, same⟩ := List.mem_map.mp h
  rw [← List.inj_on_of_nodup_map distinct (inside a there) member same]
  exact there

theorem getRewritten [DecidableEq α] {t : Rows α} (own : Own key t) {l : List α}
    (scan : t.scan = .ok l) {gone changed : List α} (goneOf : ∀ a ∈ gone, a ∈ l)
    (changedOf : ∀ a ∈ changed, a ∈ l) {f : α → α} (sameKey : ∀ a, key (f a) = key a)
    {k : String} {row : Row α} {r : α} (found : t.get? k = some row) (reads : row.read = .ok r) :
    (put key (remove t (gone.map key)).2 (changed.map f)).get? k =
      if r ∈ changed then some (.held (f r)) else if r ∈ gone then none else some row := by
  have distinct := ownScanDistinct own scan
  have member : r ∈ l := (memScan scan).mpr ⟨k, row, found, reads⟩
  have named : key r = k := own k row r found reads
  by_cases written : r ∈ changed
  · have here : ∃ a ∈ changed.map f, key a = k :=
      ⟨f r, List.mem_map.mpr ⟨r, written, rfl⟩, (sameKey r).trans named⟩
    obtain ⟨a, there, same, get⟩ := getPutSome (t := (remove t (gone.map key)).2) here
    obtain ⟨b, inChanged, rfl⟩ := List.mem_map.mp there
    have : b = r := List.inj_on_of_nodup_map distinct (changedOf b inChanged) member
      ((sameKey b).symm.trans (same.trans named.symm))
    rw [get, if_pos written, this]
  · rw [if_neg written, getPutOther, getRemove, ← named, found.symm.trans (congrArg _ named.symm)]
    · simp only [memOfKey distinct goneOf member]
    · intro a there same
      obtain ⟨b, inChanged, rfl⟩ := List.mem_map.mp there
      have : b = r := List.inj_on_of_nodup_map distinct (changedOf b inChanged) member
        ((sameKey b).symm.trans (same.trans named.symm))
      exact written (this ▸ inChanged)

theorem getRewrittenNone {t : Rows α} (own : Own key t) {l : List α} (scan : t.scan = .ok l)
    {gone : List String} {changed : List α} (changedOf : ∀ a ∈ changed, a ∈ l) {f : α → α}
    (sameKey : ∀ a, key (f a) = key a) {k : String} (absent : t.get? k = none) :
    (put key (remove t gone).2 (changed.map f)).get? k = none := by
  rw [getPutOther, getRemove, absent, ite_self]
  intro a there same
  obtain ⟨b, inChanged, rfl⟩ := List.mem_map.mp there
  obtain ⟨row, found, _⟩ := ownFound own scan (changedOf b inChanged)
  rw [← sameKey b, same, absent] at found
  cases found

end Rows
end Fleet
