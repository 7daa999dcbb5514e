import Fleet.Proofs.Assignments
import Fleet.Proofs.Dispatches
import Fleet.Proofs.Histories

/-! The pending actions over a run of deeds, each under a policy of its own, from an empty
store on. Every pending action is one that an analysis gave, at the place where it was
given, with nothing but its first sending changed since; and no id was given twice. -/
namespace Fleet

def Message.id : Message → Nat
  | .start m => m.messageId
  | .stop m => m.messageId

inductive Note where
  | given (place : Place) (d : Delivery)
  | tried (now id : Nat) (taken : Bool)
  deriving DecidableEq, Repr

def Note.given? : Note → Option (Place × Delivery)
  | .given place d => some (place, d)
  | .tried _ _ _ => none

namespace Deed

def given (policy : Policy) (s : Store) : Deed → List (Place × Delivery)
  | .analysis now failing =>
      (Analysis.decisions ((Analysis.cycle policy now).run.calls { failing } ⟨s, []⟩)).flatMap
        Analysis.Decision.given
  | .sync _ _ | .flush _ | .reap _ | .dispatch _ _ _ => []

def tried (policy : Policy) (s : Store) : Deed → List Note
  | .dispatch now failing accepts =>
      (Fleet.dispatch policy now { failing, accepts } ⟨s, []⟩).2.sent.map fun e =>
        .tried now e.1.id e.2
  | .sync _ _ | .flush _ | .reap _ | .analysis _ _ => []

def notes (policy : Policy) (s : Store) (deed : Deed) : List Note :=
  (deed.given policy s).map (fun e => .given e.1 e.2) ++ deed.tried policy s

theorem triedGiven (policy : Policy) (s : Store) (deed : Deed) :
    (deed.tried policy s).filterMap Note.given? = [] := by
  cases deed with
  | dispatch now failing accepts =>
    rw [tried, List.filterMap_map, List.filterMap_eq_nil_iff]
    exact fun _ _ => rfl
  | _ => rfl

end Deed

structure Chronicle where
  store : Store
  notes : List Note

namespace Chronicle

def add (c : Chronicle) (turn : Policy × Deed) : Chronicle :=
  ⟨turn.2.apply turn.1 c.store, c.notes ++ turn.2.notes turn.1 c.store⟩

def after (ttl : Span) (run : List (Policy × Deed)) : Chronicle := run.foldl add ⟨.empty ttl, []⟩

theorem storeAfter (policy : Policy) (ttl : Span) (deeds : List Deed) :
    (after ttl (deeds.map (policy, ·))).store = Store.after policy ttl deeds := by
  have along : ∀ c : Chronicle, ((deeds.map (policy, ·)).foldl add c).store =
      deeds.foldl (Deed.apply policy) c.store := by
    induction deeds with
    | nil => exact fun c => rfl
    | cons deed rest ih => exact fun c => ih _
  exact along _

def given (c : Chronicle) : List (Place × Delivery) := c.notes.filterMap Note.given?

def givenIds (c : Chronicle) : List Nat := c.given.map (·.2.messageId)

variable {c : Chronicle}

theorem givenAdd (c : Chronicle) (turn : Policy × Deed) :
    (c.add turn).given = c.given ++ turn.2.given turn.1 c.store := by
  have all : ∀ l : List (Place × Delivery),
      (l.map fun e => Note.given e.1 e.2).filterMap Note.given? = l := by
    intro l
    rw [List.filterMap_map]
    exact List.filterMap_some
  simp only [given, add, Deed.notes, List.filterMap_append, Deed.triedGiven, all, List.append_nil]

structure Kept (s : Store) (given : List (Place × Delivery)) : Prop where
  once : (given.map (·.2.messageId)).Nodup
  range : ∀ e ∈ given, 1 ≤ e.2.messageId ∧ e.2.messageId ≤ s.lastId
  known : ∀ p d, s.delivery? p = some d →
    ∃ d₀, (p, d₀) ∈ given ∧ d = { d₀ with sentOn := d.sentOn }
  sent : ∀ p d, s.delivery? p = some d → d.sentOn ≠ 0 → 0 < d.keepAlive ∧ d.sendOn ≤ d.sentOn
  apt : ∀ k a, s.starts.record? k = some a → a.Apt
  verified : ∀ k a, s.stops.record? k = some a → a.delivery.skipVerification = false

variable {s s' : Store} {given : List (Place × Delivery)}

theorem keptEmpty (ttl : Span) : Kept (.empty ttl) [] where
  once := List.nodup_nil
  range := nofun
  known p d found := by cases p <;> cases found
  sent p d found := by cases p <;> cases found
  apt k a found := by cases found
  verified k a found := by cases found

theorem keptAssigns (kept : Kept s given) {more : List (Place × Delivery)}
    (assigns : Analysis.Assigns s s' more) : Kept s' (given ++ more) := by
  have later : ∀ e ∈ more, s.lastId < e.2.messageId ∧ e.2.messageId ≤ s'.lastId := by
    intro e member
    have id := List.mem_map_of_mem (f := fun e : Place × Delivery => e.2.messageId) member
    rw [assigns.ids, List.mem_range'_1] at id
    have room := assigns.room
    omega
  refine {
    once := ?_
    range := fun e member => ?_
    known := fun p d found => ?_
    sent := fun p d found isSent => ?_
    apt := fun k a record => (assigns.starts k a record).elim (kept.apt k a) id
    verified := fun k a record => (assigns.stops k a record).elim (kept.verified k a) id }
  -- The new ids lie behind all that were given before.
  · rw [List.map_append]
    refine List.nodup_append.mpr ⟨kept.once, assigns.ids ▸ List.nodup_range', ?_⟩
    intro a old b new
    obtain ⟨e, member, rfl⟩ := List.mem_map.mp old
    obtain ⟨e', member', rfl⟩ := List.mem_map.mp new
    have := kept.range e member
    have := later e' member'
    omega
  · have room := assigns.room
    rcases List.mem_append.mp member with old | new
    · have := kept.range e old
      omega
    · have := later e new
      omega
  · rcases assigns.pending p d found with old | new
    · obtain ⟨d₀, member, same⟩ := kept.known p d old
      exact ⟨d₀, List.mem_append_left _ member, same⟩
    · exact ⟨d, List.mem_append_right _ new, rfl⟩
  · rcases assigns.pending p d found with old | new
    · exact kept.sent p d old isSent
    · exact absurd (assigns.unsent _ new) isSent

theorem keptStamps (kept : Kept s given) {now : Nat} (stamps : Dispatch.Stamps now s s') :
    Kept s' given where
  once := kept.once
  range e member := stamps.last ▸ kept.range e member
  known p d found := by
    rcases Dispatch.stampsPending stamps found with old | ⟨d, old, rfl, _, _⟩
    · exact kept.known p d old
    · obtain ⟨d₀, member, same⟩ := kept.known p d old
      refine ⟨d₀, member, (Queue.markSentRest d now).trans ?_⟩
      rw [same]
  sent p d found isSent := by
    rcases Dispatch.stampsPending stamps found with old | ⟨d, old, rfl, alive, due⟩
    · exact kept.sent p d old isSent
    · rw [Dispatch.markSentAlive, Dispatch.markSentDue, Dispatch.markSentOn]
      split
      · exact ⟨alive, due⟩
      · rename_i isSent
        exact kept.sent p d old isSent
  apt k a record := by
    rcases stamps.starts k a record with old | ⟨r, p, old, rfl, _⟩
    · exact kept.apt k a old
    · have apt := kept.apt k r old
      exact ⟨by simpa using apt.skips, by simpa using apt.missing⟩
  verified k a record := by
    rcases stamps.stops k a record with old | ⟨r, old, rfl, _⟩
    · exact kept.verified k a old
    · simpa using kept.verified k r old

theorem deedKept (kept : Kept s given) (regular : s.Regular) (policy : Policy) (deed : Deed) :
    Kept (deed.apply policy s) (given ++ deed.given policy s) := by
  cases deed with
  | sync specs now =>
    rw [Deed.given, List.append_nil]
    exact keptStamps kept (Dispatch.stampsNothing now rfl rfl rfl)
  | flush batch =>
    rw [Deed.given, List.append_nil]
    refine keptStamps kept (Dispatch.stampsNothing 0 ?_ ?_ ?_) <;>
      rw [Deed.apply, Intake.flushStore] <;> split <;> rfl
  | reap now =>
    rw [Deed.given, List.append_nil]
    refine keptStamps kept (Dispatch.stampsNothing now ?_ ?_ ?_) <;>
      simp only [Deed.apply, Store.reap] <;> cases s.actual.scan <;> rfl
  | analysis now failing =>
    exact keptAssigns kept (Analysis.analysisAssigns policy now { failing } ⟨s, []⟩)
  | dispatch now failing accepts =>
    have stamps : Dispatch.Stamps now s (Deed.apply policy s (.dispatch now failing accepts)) :=
      Dispatch.cycleStamps (s := { failing, accepts }) (w := ⟨s, []⟩) regular.starts regular.stops
    rw [Deed.given, List.append_nil]
    exact keptStamps kept stamps

theorem afterKept (ttl : Span) (run : List (Policy × Deed)) :
    (after ttl run).store.Regular ∧ Kept (after ttl run).store (after ttl run).given := by
  refine List.foldlRecOn (motive := fun c : Chronicle => c.store.Regular ∧ Kept c.store c.given) run _
    ⟨Store.emptyRegular ttl, keptEmpty ttl⟩ fun c ⟨regular, kept⟩ turn _ => ?_
  refine ⟨Store.deedRegular regular turn.2, ?_⟩
  rw [givenAdd]
  exact deedKept kept regular turn.1 turn.2

structure Orderly (c : Chronicle) : Prop where
  distinct : c.store.pendingIds.Nodup
  range : ∀ id ∈ c.store.pendingIds, 1 ≤ id ∧ id ≤ c.store.lastId
  pending : c.store.pendingIds ⊆ c.givenIds
  once : c.givenIds.Nodup
  given : ∀ id ∈ c.givenIds, 1 ≤ id ∧ id ≤ c.store.lastId
  sent : ∀ p d, c.store.delivery? p = some d → d.sentOn ≠ 0 → 0 < d.keepAlive ∧ d.sendOn ≤ d.sentOn
  skips : ∀ a ∈ c.store.starts.records, a.delivery.skipVerification = true ↔ a.reason = .evacuating
  verified : ∀ a ∈ c.store.stops.records, a.delivery.skipVerification = false
  missing : ∀ a ∈ c.store.starts.records, a.reason = .missing →
    a.delivery.keepAlive = 0 ∧ a.delivery.sentOn = 0

theorem keptApart (kept : Kept s given) {p q : Place} {d e : Delivery} (differ : p ≠ q)
    (found : s.delivery? p = some d) (found' : s.delivery? q = some e) : d.messageId ≠ e.messageId := by
  intro same
  obtain ⟨d₀, member, rest⟩ := kept.known p d found
  obtain ⟨e₀, member', rest'⟩ := kept.known q e found'
  rw [rest, rest'] at same
  have one := List.inj_on_of_nodup_map kept.once member member' same
  exact differ (congrArg Prod.fst one)

theorem runOrderly (ttl : Span) (run : List (Policy × Deed)) : (after ttl run).Orderly := by
  obtain ⟨_, kept⟩ := afterKept ttl run
  have pending : ∀ id ∈ (after ttl run).store.pendingIds, id ∈ (after ttl run).givenIds := by
    intro id member
    obtain ⟨p, d, found, rfl⟩ := Store.memPendingIds.mp member
    obtain ⟨d₀, given, same⟩ := kept.known p d found
    rw [same]
    exact List.mem_map_of_mem given
  have ranged : ∀ id ∈ (after ttl run).givenIds, 1 ≤ id ∧ id ≤ (after ttl run).store.lastId := by
    intro id member
    obtain ⟨e, given, rfl⟩ := List.mem_map.mp member
    exact kept.range e given
  exact {
    distinct := Store.pendingIdsDistinct fun p q d e differ => keptApart kept differ
    range := fun id member => ranged id (pending id member)
    pending := pending
    once := kept.once
    given := ranged
    sent := kept.sent
    skips := fun a member => by
      obtain ⟨k, record⟩ := Rows.memRecords.mp member
      exact (kept.apt k a record).skips
    verified := fun a member => by
      obtain ⟨k, record⟩ := Rows.memRecords.mp member
      exact kept.verified k a record
    missing := fun a member missing => by
      obtain ⟨k, record⟩ := Rows.memRecords.mp member
      have gone := (kept.apt k a record).missing missing
      refine ⟨gone, ?_⟩
      by_contra isSent
      have alive := (kept.sent _ _ (Store.deliveryStart record) isSent).1
      omega }

end Chronicle
end Fleet
