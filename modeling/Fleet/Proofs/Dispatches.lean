import Fleet.Proofs.ActionEndings
import Fleet.Proofs.Conduct
import Fleet.Proofs.Pending
import Fleet.Proofs.Refusals

/-! What a dispatch cycle does to the pending actions when any of its calls may be
refused. Nothing becomes pending; what was tried, not for the last time, may be stamped.
One whose writes are all served has removed or stamped every action that was taken. -/
namespace Fleet

namespace Surroundings

def takes (s : Surroundings) (m : Message) : Bool := decide ("send" ∉ s.failing) && s.accepts m

def tries {α : Type} (s : Surroundings) (l : List α) : List α := if "send" ∈ s.failing then [] else l

theorem triesAppend {α : Type} (s : Surroundings) (l m : List α) :
    s.tries (l ++ m) = s.tries l ++ s.tries m := by
  unfold tries
  split <;> rfl

theorem triesMap {α β : Type} (s : Surroundings) (f : α → β) (l : List α) :
    (s.tries l).map f = s.tries (l.map f) := by
  unfold tries
  split <;> rfl

end Surroundings

namespace Dispatch
variable {policy : Policy} {now : Nat} {s : Surroundings} {w : World} {g : Sight} {t : Sent}

inductive Delivers (s : Surroundings) (m : Message) (counter : String) (w : World) :
    Except Overflow Bool × World → Prop
  | refused (refused : "send" ∈ s.failing) : Delivers s m counter w (.ok false, w)
  | rejected (served : "send" ∉ s.failing) (rejects : s.accepts m = false) :
      Delivers s m counter w (.ok false, ⟨w.store, w.sent ++ [(m, false)]⟩)
  | uncounted (served : "send" ∉ s.failing) (takes : s.accepts m = true)
      (refused : "increment_metric" ∈ s.failing) :
      Delivers s m counter w (.ok true, ⟨w.store, w.sent ++ [(m, true)]⟩)
  | counted (served : "send" ∉ s.failing) (takes : s.accepts m = true)
      (room : w.store.tally counter < Bounds.instant) :
      Delivers s m counter w (.ok true, ⟨w.store.counted counter, w.sent ++ [(m, true)]⟩)
  | full (served : "send" ∉ s.failing) (takes : s.accepts m = true)
      (full : ¬ w.store.tally counter < Bounds.instant) :
      Delivers s m counter w (.error .sum, ⟨w.store, w.sent ++ [(m, true)]⟩)

theorem deliverDelivers (s : Surroundings) (m : Message) (counter : String) (w : World) :
    Delivers s m counter w ((deliver m counter).run s w) := by
  rw [deliver, Procedure.run, Procedure.attempt]
  by_cases refused : "send" ∈ s.failing
  · simp only [Call.name, refused, if_true]
    exact .refused refused
  simp only [Call.name, refused, if_false, World.serve]
  cases takes : s.accepts m with
  | false => exact .rejected refused takes
  | true =>
    simp only [Procedure.run, Procedure.attempt, Call.name]
    by_cases uncounted : "increment_metric" ∈ s.failing
    · simp only [uncounted, if_true]
      exact .uncounted refused takes uncounted
    simp only [uncounted, if_false, World.serve]
    by_cases room : w.store.tally counter < Bounds.instant
    · rw [Store.incrementOk room]
      exact .counted refused takes room
    · rw [Store.incrementFull room]
      exact .full refused takes room

theorem deliverEnds (s : Surroundings) (m : Message) (counter : String) (w : World) :
    let r := (deliver m counter).run s w
    r.2.store = { w.store with metrics := r.2.store.metrics } ∧
      ∀ took, r.1 = .ok took →
        took = s.takes m ∧ r.2.sent = w.sent ++ s.tries [(m, s.accepts m)] := by
  have delivers := deliverDelivers s m counter w
  generalize (deliver m counter).run s w = r at *
  cases delivers <;> refine ⟨rfl, ?_⟩ <;> rintro took ⟨⟩ <;>
    simp_all [Surroundings.takes, Surroundings.tries]

variable {α : Type} {message : α → Message} {counter : α → String}

theorem deliverAllEnds (s : Surroundings) (message : α → Message) (counter : α → String) (l : List α)
    (w : World) :
    let r := (deliverAll message counter l).run s w
    r.2.store = { w.store with metrics := r.2.store.metrics } ∧
      ∀ took, r.1 = .ok took → took = answered s.takes message l ∧
        r.2.sent = w.sent ++ s.tries (attempts s.accepts message l) := by
  induction l generalizing w with
  | nil =>
    refine ⟨rfl, ?_⟩
    rintro took ⟨⟩
    simp [deliverAll, Procedure.run, attempts, answered, Surroundings.tries]
  | cons a l ih =>
    obtain ⟨frame, ends⟩ := deliverEnds s (message a) (counter a) w
    rw [deliverAll, Procedure.runBind]
    rcases first : (deliver (message a) (counter a)).run s w with ⟨(o | took), v⟩ <;>
      rw [first] at frame ends
    · exact ⟨frame, by rintro took ⟨⟩⟩
    obtain ⟨rfl, sent⟩ := ends took rfl
    obtain ⟨frame', ends'⟩ := ih v
    simp only [Procedure.runBind]
    rcases rest : (deliverAll message counter l).run s v with ⟨(o | others), u⟩ <;>
      rw [rest] at frame' ends'
    · refine ⟨?_, by rintro took ⟨⟩⟩
      simp only at frame frame' ⊢
      rw [frame', frame]
    obtain ⟨rfl, sent'⟩ := ends' others rfl
    simp only at frame frame' sent sent'
    refine ⟨?_, ?_⟩
    · simp only [Procedure.run]
      rw [frame', frame]
    rintro _ ⟨⟩
    refine ⟨(answeredCons _ _ _ _).symm, ?_⟩
    simp only [Procedure.run]
    rw [sent', sent, List.append_assoc, ← Surroundings.triesAppend]
    rfl

def Sight.taken (g : Sight) (s : Surroundings) (policy : Policy) (now : Nat) : Sent :=
  g.received policy now s.takes

theorem sendEnds (policy : Policy) (now : Nat) (g : Sight) (s : Surroundings) (w : World) :
    let r := (send policy now g).run s w
    r.2.store = { w.store with metrics := r.2.store.metrics } ∧
      ∀ t, r.1 = .ok t → t = g.taken s policy now ∧
        r.2.sent = w.sent ++ s.tries (g.attempted policy now s.accepts) := by
  obtain ⟨frame, ends⟩ :=
    deliverAllEnds s (startMessage g.snapshot) (·.reason.counter) (g.tried policy now) w
  rw [send, Procedure.runBind]
  rcases first : (deliverAll (startMessage g.snapshot) (·.reason.counter) (g.tried policy now)).run s w
    with ⟨(o | starts), v⟩ <;> rw [first] at frame ends
  · exact ⟨frame, by rintro t ⟨⟩⟩
  obtain ⟨rfl, sent⟩ := ends starts rfl
  obtain ⟨frame', ends'⟩ :=
    deliverAllEnds s (stopMessage g.snapshot) (·.reason.counter) (g.dueStops now) v
  simp only [Procedure.runBind]
  rcases second : (deliverAll (stopMessage g.snapshot) (·.reason.counter) (g.dueStops now)).run s v
    with ⟨(o | stops), u⟩ <;> rw [second] at frame' ends'
  · refine ⟨?_, by rintro t ⟨⟩⟩
    simp only at frame frame' ⊢
    rw [frame', frame]
  obtain ⟨rfl, sent'⟩ := ends' stops rfl
  simp only at frame frame' sent sent'
  refine ⟨?_, ?_⟩
  · simp only [Procedure.run]
    rw [frame', frame]
  rintro _ ⟨⟩
  refine ⟨rfl, ?_⟩
  simp only [Procedure.run]
  rw [sent', sent, List.append_assoc, ← Surroundings.triesAppend]
  rfl

def rewritten (s : Store) (goneStarts keptStarts : List Start) (goneStops keptStops : List Stop) : Store :=
  { s with
    starts := ((s.starts.remove (goneStarts.map Start.key)).2).put Start.key keptStarts
    stops := ((s.stops.remove (goneStops.map Stop.key)).2).put Stop.key keptStops }

theorem settleEnds (now : Nat) (g : Sight) (t : Sent) (s : Surroundings) (w : World) :
    (settle now g t).run.run s w = (.ok (.ok ()), { w with store := settled now g t w.store }) ∨
    ∃ what e goneStarts keptStarts goneStops keptStops, goneStarts ⊆ t.doneStarts g now ∧
      keptStarts ⊆ t.keptStarts now ∧ keptStops ⊆ t.keptStops now ∧ (settle now g t).run.run s w =
        (.ok (.error (.unwritten what e)),
          { w with store := rewritten w.store goneStarts keptStarts goneStops keptStops }) := by
  have none {β : Type} (l : List β) : [] ⊆ l := List.nil_subset l
  have gone := List.Subset.refl (t.doneStarts g now)
  rw [settle]
  rcases Cycle.runWriteEither (c := .deleteStarts (t.doneStarts g now)) (s := s) (w := w)
    .retiredStarts rfl with ⟨e, _, run⟩ | ⟨_, run⟩
  · exact .inr ⟨.retiredStarts, e, [], [], [], [], none _, none _, none _, Cycle.runBindError run⟩
  rw [Cycle.runBindOk run]
  rcases Cycle.runWriteEither (c := .deleteStops (t.doneStops g now)) (s := s) .retiredStops
    rfl with ⟨e, _, run⟩ | ⟨_, run⟩
  · exact .inr ⟨.retiredStops, e, t.doneStarts g now, [], [], [], gone, none _, none _,
      Cycle.runBindError run⟩
  rw [Cycle.runBindOk run]
  rcases Cycle.runWriteEither (c := .saveStarts (t.keptStarts now)) (s := s) .sentStarts
    rfl with ⟨e, _, run⟩ | ⟨_, run⟩
  · exact .inr ⟨.sentStarts, e, t.doneStarts g now, [], t.doneStops g now, [], gone, none _, none _,
      Cycle.runBindError run⟩
  rw [Cycle.runBindOk run]
  rcases Cycle.runWriteEither (c := .saveStops (t.keptStops now)) (s := s) .sentStops
    rfl with ⟨e, _, run⟩ | ⟨_, run⟩
  · exact .inr ⟨.sentStops, e, t.doneStarts g now, t.keptStarts now, t.doneStops g now, [], gone,
      List.Subset.refl _, none _, run⟩
  · exact .inl run

theorem lookLooks (policy : Policy) (now : Nat) (s : Surroundings) (w : World) :
    Cycle.Looks s w (look policy now) (Seen policy now w.store) := by
  refine Cycle.looksBind (Cycle.looksFresh now _) fun _ fresh => ?_
  refine Cycle.looksBind (Cycle.looksRead rfl) fun starts one => ?_
  refine Cycle.looksBind (Cycle.looksRead rfl) fun stops two => ?_
  refine Cycle.looksBind (Cycle.looksSnapshot now) fun v shows => ?_
  exact Cycle.looksPure ⟨fresh, one, two, shows⟩

inductive Ends (policy : Policy) (now : Nat) (s : Surroundings) (w : World) :
    Except Overflow (Except CycleError Report) × World → Prop
  | blind (e : CycleError) : Ends policy now s w (.ok (.error e), w)
  | full {metrics : Table String Nat} {sent : List (Message × Bool)} (o : Overflow) :
      Ends policy now s w (.error o, ⟨{ w.store with metrics }, sent⟩)
  | cut {g : Sight} {metrics : Table String Nat} {sent : List (Message × Bool)}
      {goneStarts keptStarts : List Start} {goneStops keptStops : List Stop} (what : Writing)
      (e : StoreError) (seen : Seen policy now w.store g)
      (goneStart : goneStarts ⊆ (g.taken s policy now).doneStarts g now)
      (keptStart : keptStarts ⊆ (g.taken s policy now).keptStarts now)
      (keptStop : keptStops ⊆ (g.taken s policy now).keptStops now) :
      Ends policy now s w (.ok (.error (.unwritten what e)),
        ⟨rewritten { w.store with metrics } goneStarts keptStarts goneStops keptStops, sent⟩)
  | settled {g : Sight} {metrics : Table String Nat} (seen : Seen policy now w.store g) :
      Ends policy now s w (.ok (conclude policy now g (g.taken s policy now)),
        ⟨settled now g (g.taken s policy now) { w.store with metrics },
          w.sent ++ s.tries (g.attempted policy now s.accepts)⟩)

theorem cycleEnds (policy : Policy) (now : Nat) (s : Surroundings) (w : World) :
    Ends policy now s w ((cycle policy now).run.run s w) := by
  rcases lookLooks policy now s w with ⟨g, seen, looked⟩ | ⟨e, looked⟩
  case inr =>
    rw [cycle, Cycle.runBindError looked]
    exact .blind e
  rw [cycle, Cycle.runBindOk looked]
  obtain ⟨frame, ends⟩ := sendEnds policy now g s w
  have lifted := Cycle.runLift (send policy now g) s w
  rcases first : (send policy now g).run s w with ⟨(o | t), ⟨store, sent⟩⟩ <;>
    rw [first] at frame ends lifted <;>
    obtain ⟨metrics, rfl⟩ : ∃ metrics, store = { w.store with metrics := metrics } := ⟨_, frame⟩
  · rw [Cycle.runBindHalt lifted]
    exact .full o
  obtain ⟨rfl, rfl⟩ := ends t rfl
  rw [Cycle.runBindOk lifted]
  rcases settleEnds now g (g.taken s policy now) s _ with
    run | ⟨what, e, _, _, _, _, gone, one, two, run⟩
  · rw [Cycle.runBindOk run]
    exact .settled seen
  · rw [Cycle.runBindError run]
    exact .cut what e seen gone one two

section
variable (d : Delivery) (now : Nat)

@[simp] theorem markSentId : (d.markSent now).messageId = d.messageId := by
  rw [Queue.markSentRest]

@[simp] theorem markSentDue : (d.markSent now).sendOn = d.sendOn := by
  rw [Queue.markSentRest]

@[simp] theorem markSentAlive : (d.markSent now).keepAlive = d.keepAlive := by
  rw [Queue.markSentRest]

@[simp] theorem markSentSkips : (d.markSent now).skipVerification = d.skipVerification := by
  rw [Queue.markSentRest]

theorem markSentOn : (d.markSent now).sentOn = if d.sentOn = 0 then now else d.sentOn := by
  rw [markSentRestamped, restamped]

end

structure Stamps (now : Nat) (s s' : Store) : Prop where
  last : s'.lastId = s.lastId
  starts : ∀ k a, s'.starts.record? k = some a → s.starts.record? k = some a ∨
    ∃ r p, s.starts.record? k = some r ∧
      a = { r with priority := p, delivery := r.delivery.markSent now } ∧
      0 < r.delivery.keepAlive ∧ r.delivery.sendOn ≤ now
  stops : ∀ k a, s'.stops.record? k = some a → s.stops.record? k = some a ∨
    ∃ r, s.stops.record? k = some r ∧ a = { r with delivery := r.delivery.markSent now } ∧
      0 < r.delivery.keepAlive ∧ r.delivery.sendOn ≤ now

theorem stampsNothing (now : Nat) {s s' : Store} (starts : s'.starts = s.starts)
    (stops : s'.stops = s.stops) (last : s'.lastId = s.lastId) : Stamps now s s' where
  last := last
  starts _ _ record := .inl (starts ▸ record)
  stops _ _ record := .inl (stops ▸ record)

theorem keepsAlive {d : Delivery} (again : (!d.fireAndForget) = true) : 0 < d.keepAlive := by
  simp only [Delivery.fireAndForget, Bool.not_eq_true', decide_eq_false_iff_not] at again
  omega

theorem stampsPending {s s' : Store} (stamps : Stamps now s s') {p : Place} {d : Delivery}
    (found : s'.delivery? p = some d) : s.delivery? p = some d ∨
      ∃ d₀, s.delivery? p = some d₀ ∧ d = d₀.markSent now ∧ 0 < d₀.keepAlive ∧
        d₀.sendOn ≤ now := by
  cases p with
  | start k =>
    obtain ⟨a, record, rfl⟩ := Option.map_eq_some_iff.mp found
    rcases stamps.starts k a record with old | ⟨r, p, old, rfl, alive, due⟩
    · exact .inl (Store.deliveryStart old)
    · exact .inr ⟨r.delivery, Store.deliveryStart old, rfl, alive, due⟩
  | stop k =>
    obtain ⟨a, record, rfl⟩ := Option.map_eq_some_iff.mp found
    rcases stamps.stops k a record with old | ⟨r, old, rfl, alive, due⟩
    · exact .inl (Store.deliveryStop old)
    · exact .inr ⟨r.delivery, Store.deliveryStop old, rfl, alive, due⟩

theorem stampsRewritten {s' : Store} {metrics : Table String Nat}
    (ownStarts : Rows.Own Start.key s'.starts) (ownStops : Rows.Own Stop.key s'.stops)
    (startsRead : s'.starts.scan = .ok g.starts)
    (stopsRead : s'.stops.scan = .ok g.stops) {goneStarts keptStarts : List Start}
    {goneStops keptStops : List Stop} (keptStart : keptStarts ⊆ (g.taken s policy now).keptStarts now)
    (keptStop : keptStops ⊆ (g.taken s policy now).keptStops now) :
    Stamps now s' (rewritten { s' with metrics } goneStarts keptStarts goneStops keptStops) where
  last := rfl
  starts k a record := by
    rcases Rows.recordPut record with ⟨_, old⟩ | ⟨new, rfl⟩
    · exact .inl (Rows.recordRemove.mp old).2
    · obtain ⟨b, member, rfl⟩ := List.mem_map.mp (keptStart new)
      obtain ⟨took, again⟩ := List.mem_filter.mp member
      obtain ⟨read, fate⟩ := memTried (receivedTried took)
      obtain ⟨_, due, _⟩ := fateDue.mp fate
      obtain ⟨r, p, old, rfl⟩ := Rows.startOfScan ownStarts startsRead read
      exact .inr ⟨r, p, old, rfl, keepsAlive again, of_decide_eq_true due⟩
  stops k a record := by
    rcases Rows.recordPut record with ⟨_, old⟩ | ⟨new, rfl⟩
    · exact .inl (Rows.recordRemove.mp old).2
    · obtain ⟨b, member, rfl⟩ := List.mem_map.mp (keptStop new)
      obtain ⟨took, again⟩ := List.mem_filter.mp member
      obtain ⟨read, fate⟩ := memDueStops.mp (receivedDue took)
      obtain ⟨_, due, _⟩ := fateDue.mp fate
      exact .inr ⟨b, Rows.stopOfScan ownStops stopsRead read, rfl, keepsAlive again, of_decide_eq_true due⟩

theorem cycleStamps (ownStarts : Rows.Own Start.key w.store.starts)
    (ownStops : Rows.Own Stop.key w.store.stops) :
    Stamps now w.store ((cycle policy now).run.run s w).2.store := by
  have ends := cycleEnds policy now s w
  generalize (cycle policy now).run.run s w = r at *
  cases ends with
  | blind e => exact stampsNothing now rfl rfl rfl
  | full o => exact stampsNothing now rfl rfl rfl
  | cut what e seen _ keptStart keptStop =>
    exact stampsRewritten ownStarts ownStops seen.starts seen.stops keptStart keptStop
  | settled seen =>
    exact stampsRewritten ownStarts ownStops seen.starts seen.stops (List.Subset.refl _)
      (List.Subset.refl _)

end Dispatch
end Fleet
