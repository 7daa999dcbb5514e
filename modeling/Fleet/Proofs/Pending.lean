import Fleet.Proofs.Custody

/-! The pending actions of a store, each at its place: a start at its index, a stop at its
instance. What a table holds at a key after records were put into it or removed from it. -/
namespace Fleet

inductive Place where
  | start (key : String)
  | stop (guid : String)
  deriving DecidableEq, Repr

namespace Rows
variable {α : Type} [Record α] {key : α → String} {t : Rows α} {k : String} {a : α}

def record? (t : Rows α) (k : String) : Option α := (t.get? k).bind Row.record?

def records (t : Rows α) : List α := t.values.filterMap Row.record?

theorem memRecords : a ∈ t.records ↔ ∃ k, t.record? k = some a := by
  simp only [records, Table.values, List.mem_filterMap, List.mem_map, record?,
    Option.bind_eq_some_iff, Table.getSome]
  constructor
  · rintro ⟨_, ⟨e, member, rfl⟩, record⟩
    exact ⟨e.1, e.2, member, record⟩
  · rintro ⟨k, row, member, record⟩
    exact ⟨row, ⟨_, member, rfl⟩, record⟩

theorem recordsPairwise {before : α → α → Prop} (each : ∀ k k' a a', compare k k' = .lt →
    t.record? k = some a → t.record? k' = some a' → before a a') : t.records.Pairwise before := by
  rw [records, Table.values, List.pairwise_filterMap, List.pairwise_map]
  refine t.ascending.imp_of_mem fun {e e'} member member' below a record a' record' => ?_
  refine each e.1 e'.1 a a' below ?_ ?_
  · rw [record?, t.getSome.mpr member, Option.bind_some, record]
  · rw [record?, t.getSome.mpr member', Option.bind_some, record']

theorem recordPut {rs : List α} (found : (put key t rs).record? k = some a) :
    (k ∉ rs.map key ∧ t.record? k = some a) ∨ (a ∈ rs ∧ key a = k) := by
  by_cases written : ∃ r ∈ rs, key r = k
  · obtain ⟨r, member, same, held⟩ := getPutSome (t := t) written
    rw [record?, held] at found
    cases found
    exact .inr ⟨member, same⟩
  · rw [record?, getPutOther fun r member same => written ⟨r, member, same⟩] at found
    exact .inl ⟨fun named => written (List.mem_map.mp named), found⟩

theorem recordRemove {ks : List String} :
    (remove t ks).2.record? k = some a ↔ k ∉ ks ∧ t.record? k = some a := by
  rw [record?, getRemove]
  by_cases gone : k ∈ ks <;> simp [gone, record?]

theorem recordOfScan (own : Own key t) {l : List α} (scan : t.scan = .ok l) (member : a ∈ l) :
    ∃ r, t.record? (key a) = some r ∧ (r = a ∨ Record.settle r = some a) := by
  obtain ⟨row, found, reads⟩ := ownFound own scan member
  obtain ⟨r, record, same⟩ := Row.readRecord reads
  exact ⟨r, by rw [record?, found, Option.bind_some, record], same⟩

theorem recordScan (settles : ∀ r : α, Record.settle r = some r) (own : Own key t) {l : List α}
    (read : t.scan = .ok l) : t.record? k = some a ↔ a ∈ l ∧ key a = k := by
  simp only [record?, Option.bind_eq_some_iff, ← Row.readSettled settles]
  rw [memScan read]
  constructor
  · rintro ⟨row, found, reads⟩
    exact ⟨⟨k, row, found, reads⟩, own k row a found reads⟩
  · rintro ⟨⟨j, row, found, reads⟩, rfl⟩
    exact ⟨row, own j row a found reads ▸ found, reads⟩

theorem startOfScan {t : Rows Start} (own : Own Start.key t) {l : List Start} (scan : t.scan = .ok l)
    {a : Start} (member : a ∈ l) : ∃ r p, t.record? a.key = some r ∧ a = { r with priority := p } := by
  obtain ⟨r, record, same⟩ := recordOfScan own scan member
  rcases same with rfl | settled
  · exact ⟨r, r.priority, record, rfl⟩
  · obtain ⟨p, _, same⟩ := Start.settleSome settled
    exact ⟨r, p, record, same⟩

theorem stopOfScan {t : Rows Stop} (own : Own Stop.key t) {l : List Stop} (scan : t.scan = .ok l)
    {a : Stop} (member : a ∈ l) : t.record? a.key = some a := by
  obtain ⟨r, record, same⟩ := recordOfScan own scan member
  obtain rfl : r = a := by simpa [Stop.settle] using same
  exact record

end Rows

namespace Store

def delivery? (s : Store) : Place → Option Delivery
  | .start k => (s.starts.record? k).map Start.delivery
  | .stop guid => (s.stops.record? guid).map Stop.delivery

def pendingIds (s : Store) : List Nat :=
  s.starts.records.map (·.delivery.messageId) ++ s.stops.records.map (·.delivery.messageId)

variable {s : Store} {k : String}

theorem deliveryStart {a : Start} (record : s.starts.record? k = some a) :
    s.delivery? (.start k) = some a.delivery := by
  rw [delivery?, record, Option.map_some]

theorem deliveryStop {a : Stop} (record : s.stops.record? k = some a) :
    s.delivery? (.stop k) = some a.delivery := by
  rw [delivery?, record, Option.map_some]

theorem memPendingIds {id : Nat} :
    id ∈ s.pendingIds ↔ ∃ p d, s.delivery? p = some d ∧ d.messageId = id := by
  simp only [pendingIds, List.mem_append, List.mem_map, Rows.memRecords]
  constructor
  · rintro (⟨a, ⟨k, record⟩, rfl⟩ | ⟨a, ⟨k, record⟩, rfl⟩)
    · exact ⟨.start k, a.delivery, deliveryStart record, rfl⟩
    · exact ⟨.stop k, a.delivery, deliveryStop record, rfl⟩
  · rintro ⟨k | k, d, found, rfl⟩
    · obtain ⟨a, record, rfl⟩ := Option.map_eq_some_iff.mp found
      exact .inl ⟨a, ⟨k, record⟩, rfl⟩
    · obtain ⟨a, record, rfl⟩ := Option.map_eq_some_iff.mp found
      exact .inr ⟨a, ⟨k, record⟩, rfl⟩

theorem keyBelow {k k' : String} (below : compare k k' = .lt) : k ≠ k' := by
  rintro rfl
  simp at below

theorem pendingIdsDistinct (apart : ∀ p q d e, p ≠ q → s.delivery? p = some d →
    s.delivery? q = some e → d.messageId ≠ e.messageId) : s.pendingIds.Nodup := by
  refine List.nodup_append.mpr ⟨?_, ?_, ?_⟩
  · refine List.pairwise_map.mpr (Rows.recordsPairwise fun k k' a b below record record' => ?_)
    have places : Place.start k ≠ .start k' := fun same => keyBelow below (Place.start.inj same)
    exact apart _ _ _ _ places (deliveryStart record) (deliveryStart record')
  · refine List.pairwise_map.mpr (Rows.recordsPairwise fun k k' a b below record record' => ?_)
    have places : Place.stop k ≠ .stop k' := fun same => keyBelow below (Place.stop.inj same)
    exact apart _ _ _ _ places (deliveryStop record) (deliveryStop record')
  · intro id started id' stopped
    obtain ⟨a, member, rfl⟩ := List.mem_map.mp started
    obtain ⟨b, member', rfl⟩ := List.mem_map.mp stopped
    obtain ⟨k, record⟩ := Rows.memRecords.mp member
    obtain ⟨k', record'⟩ := Rows.memRecords.mp member'
    exact apart (.start k) (.stop k') _ _ nofun (deliveryStart record) (deliveryStop record')

end Store
end Fleet
