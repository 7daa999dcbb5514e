import Fleet.Procedure
import Fleet.Proofs.Records

/-! Two sides share a table of pending records: the analyzer adds to it, the dispatcher
removes from it and stamps what was sent. Each acts on what it has read before. What each
may do with what it has read, and what the table keeps when both hold to it. -/
namespace Fleet

inductive Side where
  | analyzer
  | dispatcher
  deriving DecidableEq, Repr

inductive Move (α : Type) where
  | idle
  | read (records : List α)
  | put (records : List α)
  | drop (records : List α)

namespace Move
variable {α : Type}

def apply (key : α → String) (t : Rows α) : Move α → Rows α
  | .idle => t
  | .read _ => t
  | .put rs => t.put key rs
  | .drop rs => (t.remove (rs.map key)).2

def known (key : α → String) (k : Option (List α)) : Move α → Option (List α)
  | .idle => k
  | .read rs => some rs
  | .put _ => none
  | .drop rs => k.map fun read => read.filter fun a => key a ∉ rs.map key

end Move

def Row.record? {α : Type} [Record α] : Row α → Option α
  | .held r => some r
  | .foreign text => (Record.decode text).toOption

theorem Row.readRecord {α : Type} [Record α] {row : Row α} {a : α} (reads : row.read = .ok a) :
    ∃ r, row.record? = some r ∧ (r = a ∨ Record.settle r = some a) := by
  cases row with
  | held r => exact ⟨r, rfl, .inr (Rows.readHeld.mp reads)⟩
  | foreign text =>
    refine ⟨a, ?_, .inl rfl⟩
    simp only [Row.read] at reads
    split at reads
    · rename_i r decoded
      cases reads
      simp [Row.record?, decoded, Except.toOption]
    · cases reads

theorem Row.readSettled {α : Type} [Record α] (settles : ∀ r : α, Record.settle r = some r)
    {row : Row α} {a : α} : row.read = .ok a ↔ row.record? = some a := by
  cases row with
  | held r => rw [Rows.readHeld, settles, Row.record?]
  | foreign text =>
    simp only [Row.read, Row.record?]
    cases Record.decode (α := α) text <;> simp [Except.toOption]

def Row.Kept {α : Type} [Record α] (same : α → α → Prop) (row row' : Row α) : Prop :=
  row' = row ∨ ∃ r r', row.record? = some r ∧ row'.record? = some r' ∧ same r r'

structure Queue (α : Type) [Record α] where
  key : α → String
  delivery : α → Delivery
  same : α → α → Prop
  guarded : α → Prop
  rows : Store → Rows α
  move : (c : Call) → Except StoreError c.Reply → Move α
  sameRefl : ∀ a, same a a
  sameTrans : ∀ {a b c}, same a b → same b c → same a c
  sameKey : ∀ {a b}, same a b → key b = key a
  sameId : ∀ {a b}, same a b → (delivery b).messageId = (delivery a).messageId
  sameSettled : ∀ {a b}, Record.settle a = some b → same a b
  sameGuarded : ∀ {a b}, same a b → guarded a → guarded b
  pending : ∀ {s t : Store}, t.starts = s.starts → t.stops = s.stops → rows t = rows s
  refused : ∀ c e, move c (.error e) = .idle
  served : ∀ {s c w r w'}, Procedure.attempt s c w = .ok (r, w') →
    rows w'.store = (move c r).apply key (rows w.store) ∧
      ∀ rs, move c r = .read rs → (rows w.store).scan = .ok rs

namespace Queue
variable {α : Type} [Record α] (q : Queue α)

/-- The analyzer adds under keys that it has not seen; the dispatcher removes and writes
back what it has read. -/
def Allowed : Side → Option (List α) → Move α → Prop
  | .analyzer, some seen, .put rs => ∀ r ∈ rs, q.key r ∉ seen.map q.key ∧ q.guarded r
  | .dispatcher, some held, .put rs => ∀ r ∈ rs, ∃ a ∈ held, q.same a r
  | .dispatcher, some held, .drop rs => ∀ r ∈ rs, r ∈ held
  | _, _, .idle => True
  | _, _, .read _ => True
  | _, _, _ => False

structure Sound (t : Rows α) (seen held : Option (List α)) : Prop where
  own : Rows.Own q.key t
  covered : ∀ rs, seen = some rs → ∀ k row, t.get? k = some row → k ∈ rs.map q.key
  vouched : ∀ rs, held = some rs → ∀ a ∈ rs, ∃ row, t.get? (q.key a) = some row ∧ row.read = .ok a

def Guarded (t : Rows α) : Prop :=
  ∀ k row r, t.get? k = some row → row.record? = some r → q.guarded r

variable {q} {t : Rows α} {seen held : Option (List α)} {m : Move α}

theorem readRecord {row : Row α} {a : α} (reads : row.read = .ok a) :
    ∃ r, row.record? = some r ∧ q.same r a := by
  obtain ⟨r, record, same | settled⟩ := Row.readRecord reads
  · exact ⟨r, record, same ▸ q.sameRefl r⟩
  · exact ⟨r, record, q.sameSettled settled⟩

theorem keptTrans {row row' row'' : Row α} (first : row.Kept q.same row')
    (second : row'.Kept q.same row'') : row.Kept q.same row'' := by
  rcases second with rfl | ⟨b, c, found, found', same⟩
  · exact first
  · rcases first with rfl | ⟨a, b', found'', again, same'⟩
    · exact .inr ⟨b, c, found, found', same⟩
    · rw [found] at again
      cases again
      exact .inr ⟨a, c, found'', found', q.sameTrans same' same⟩

theorem ownApply (own : Rows.Own q.key t) (m : Move α) : Rows.Own q.key (m.apply q.key t) := by
  cases m with
  | idle => exact own
  | read rs => exact own
  | put rs => exact Rows.ownPut (fun r a h => q.sameKey (q.sameSettled h)) own rs
  | drop rs => exact Rows.ownRemove own _

theorem addedBeside (sound : q.Sound t seen held) (allowed : q.Allowed .analyzer seen m)
    {k : String} {row : Row α} (found : t.get? k = some row) :
    (m.apply q.key t).get? k = some row := by
  cases m with
  | idle => exact found
  | read rs => exact found
  | drop rs => cases seen <;> exact allowed.elim
  | put rs =>
    cases seen with
    | none => exact allowed.elim
    | some read =>
      refine (Rows.getPutOther fun r member same => ?_).trans found
      exact (allowed r member).1 (same ▸ sound.covered read rfl k row found)

theorem analyzerMoves (sound : q.Sound t seen held) (allowed : q.Allowed .analyzer seen m)
    (read : ∀ rs, m = .read rs → t.scan = .ok rs) :
    q.Sound (m.apply q.key t) (m.known q.key seen) held where
  own := ownApply sound.own m
  vouched rs h a member := by
    obtain ⟨row, found, reads⟩ := sound.vouched rs h a member
    exact ⟨row, addedBeside sound allowed found, reads⟩
  covered rs h k row found := by
    cases m with
    | idle => exact sound.covered rs h k row found
    | put _ => cases h
    | drop _ => cases seen <;> exact allowed.elim
    | read rs' =>
      cases h
      obtain ⟨r, member, reads⟩ := Rows.scanReads (read rs rfl) found
      exact List.mem_map.mpr ⟨r, member, sound.own k row r found reads⟩

theorem writtenBack (sound : q.Sound t seen held) {rs : List α}
    (allowed : q.Allowed .dispatcher held (.put rs)) {r : α} (member : r ∈ rs) :
    ∃ row, t.get? (q.key r) = some row ∧ ∃ r', row.record? = some r' ∧ q.same r' r := by
  cases held with
  | none => exact allowed.elim
  | some held =>
    obtain ⟨a, there, same⟩ := allowed r member
    obtain ⟨row, found, reads⟩ := sound.vouched held rfl a there
    obtain ⟨r', written, same'⟩ := q.readRecord reads
    exact ⟨row, q.sameKey same ▸ found, r', written, q.sameTrans same' same⟩

theorem dispatcherMoves (sound : q.Sound t seen held) (allowed : q.Allowed .dispatcher held m)
    (read : ∀ rs, m = .read rs → t.scan = .ok rs) :
    q.Sound (m.apply q.key t) seen (m.known q.key held) where
  own := ownApply sound.own m
  covered rs h k row found := by
    cases m with
    | idle => exact sound.covered rs h k row found
    | read _ => exact sound.covered rs h k row found
    | drop gone =>
      rw [Move.apply, Rows.getRemove] at found
      split at found
      · cases found
      · exact sound.covered rs h k row found
    | put written =>
      by_cases replaced : ∃ r ∈ written, q.key r = k
      · obtain ⟨r, member, rfl⟩ := replaced
        obtain ⟨row', found', _⟩ := writtenBack sound allowed member
        exact sound.covered rs h _ row' found'
      · rw [Move.apply, Rows.getPutOther fun r member same => replaced ⟨r, member, same⟩] at found
        exact sound.covered rs h k row found
  vouched rs h a member := by
    cases m with
    | idle => exact sound.vouched rs h a member
    | put _ => cases h
    | read rs' =>
      cases h
      exact Rows.ownFound sound.own (read rs rfl) member
    | drop gone =>
      obtain ⟨before, known, rfl⟩ := Option.map_eq_some_iff.mp h
      obtain ⟨there, stays⟩ := List.mem_filter.mp member
      obtain ⟨row, found, reads⟩ := sound.vouched before known a there
      refine ⟨row, ?_, reads⟩
      rw [Move.apply, Rows.getRemove, if_neg (by simpa using stays), found]

theorem keptOrRemoved (sound : q.Sound t seen held) (allowed : q.Allowed .dispatcher held m)
    {k : String} {row : Row α} (found : t.get? k = some row) :
    (∃ row', (m.apply q.key t).get? k = some row' ∧ row.Kept q.same row') ∨
      ∃ gone rs, m = .drop gone ∧ held = some rs ∧ ∃ a ∈ gone, a ∈ rs ∧ q.key a = k ∧
        row.read = .ok a := by
  cases m with
  | idle => exact .inl ⟨row, found, .inl rfl⟩
  | read _ => exact .inl ⟨row, found, .inl rfl⟩
  | put written =>
    by_cases replaced : ∃ r ∈ written, q.key r = k
    · obtain ⟨r, member, named, found'⟩ := Rows.getPutSome (t := t) replaced
      obtain ⟨row', here, r', record, same⟩ := writtenBack sound allowed member
      rw [named, found] at here
      cases here
      exact .inl ⟨_, found', .inr ⟨r', r, record, rfl, same⟩⟩
    · refine .inl ⟨row, ?_, .inl rfl⟩
      rw [Move.apply, Rows.getPutOther fun r member same => replaced ⟨r, member, same⟩, found]
  | drop gone =>
    cases held with
    | none => exact allowed.elim
    | some rs =>
      by_cases named : k ∈ gone.map q.key
      · obtain ⟨a, member, rfl⟩ := List.mem_map.mp named
        obtain ⟨row', found', reads⟩ := sound.vouched rs rfl a (allowed a member)
        rw [found] at found'
        cases found'
        exact .inr ⟨gone, rs, rfl, rfl, a, member, allowed a member, rfl, reads⟩
      · refine .inl ⟨row, ?_, .inl rfl⟩
        rw [Move.apply, Rows.getRemove, if_neg named, found]

theorem guardedPut (guarded : q.Guarded t) {rs : List α} (all : ∀ r ∈ rs, q.guarded r) :
    q.Guarded (t.put q.key rs) := by
  intro k row r found record
  by_cases written : ∃ r ∈ rs, q.key r = k
  · obtain ⟨r', member, _, found'⟩ := Rows.getPutSome (t := t) written
    rw [found'] at found
    cases found
    cases record
    exact all r member
  · rw [Rows.getPutOther fun r member same => written ⟨r, member, same⟩] at found
    exact guarded k row r found record

theorem guardedDrop (guarded : q.Guarded t) (gone : List α) :
    q.Guarded ((Move.drop gone).apply q.key t) := by
  intro k row r found record
  rw [Move.apply, Rows.getRemove] at found
  split at found
  · cases found
  · exact guarded k row r found record

theorem addedGuarded (guarded : q.Guarded t) (allowed : q.Allowed .analyzer seen m) :
    q.Guarded (m.apply q.key t) := by
  cases m with
  | idle => exact guarded
  | read rs => exact guarded
  | drop gone => exact guardedDrop guarded gone
  | put rs =>
    cases seen with
    | none => exact allowed.elim
    | some read => exact guardedPut guarded fun r member => (allowed r member).2

theorem stampedGuarded (guarded : q.Guarded t) (sound : q.Sound t seen held)
    (allowed : q.Allowed .dispatcher held m) : q.Guarded (m.apply q.key t) := by
  cases m with
  | idle => exact guarded
  | read rs => exact guarded
  | drop gone => exact guardedDrop guarded gone
  | put rs =>
    refine guardedPut guarded fun r member => ?_
    obtain ⟨row, found, r', record, same⟩ := writtenBack sound allowed member
    exact q.sameGuarded same (guarded _ row r' found record)

end Queue
end Fleet
