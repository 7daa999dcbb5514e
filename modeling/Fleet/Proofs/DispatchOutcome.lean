import Fleet.Proofs.Deliveries
import Fleet.Proofs.Records
import Fleet.Proofs.Refusals

/-! What one dispatch cycle does, as a function of what it reads: which messages it
tries, what becomes of every pending action, and what it answers. The receiver's
answers are any function of the messages; as no two messages of a cycle are the same,
every assignment of answers to attempts is one of these functions. -/
namespace Fleet
namespace Dispatch
variable {policy : Policy} {now : Nat} {accepts : Message → Bool} {w w' : World} {g : Sight}

theorem fateDue {d : Delivery} {rejection : Option Rejection} : fate d now rejection = .due ↔
    d.isExpired now = false ∧ d.isDue now = true ∧
      (d.skipVerification = true ∨ rejection = none) := by
  unfold fate
  cases d.isExpired now <;> cases d.isDue now <;> cases d.skipVerification <;> cases rejection <;> simp

theorem memTried {s : Start} (member : s ∈ g.tried policy now) :
    s ∈ g.starts ∧ startFate g.snapshot now s = .due := by
  have := (arrangePerm sendsBefore _).mem_iff.mp (List.mem_of_mem_take member)
  simpa [Sight.startsWith] using this

theorem memDueStops {s : Stop} :
    s ∈ g.dueStops now ↔ s ∈ g.stops ∧ stopFate g.snapshot now s = .due := by
  simp [Sight.dueStops, Sight.stopsWith]

variable {t : Sent}

theorem doneStartsRead (took : t.starts ⊆ g.tried policy now) {a : Start}
    (done : a ∈ t.doneStarts g now) : a ∈ g.starts := by
  simp only [Sent.doneStarts, Sight.startsWith, List.mem_append, List.mem_filter] at done
  rcases done with (h | h) | h
  · exact h.1
  · exact h.1
  · exact (memTried (took h.1)).1

theorem doneStopsRead (took : t.stops ⊆ g.dueStops now) {a : Stop}
    (done : a ∈ t.doneStops g now) : a ∈ g.stops := by
  simp only [Sent.doneStops, Sight.stopsWith, List.mem_append, List.mem_filter] at done
  rcases done with (h | h) | h
  · exact h.1
  · exact h.1
  · exact (memDueStops.mp (took h.1)).1

theorem keptStartsRead (took : t.starts ⊆ g.tried policy now) {r : Start}
    (kept : r ∈ t.keptStarts now) :
    ∃ a ∈ g.starts, a ∉ t.doneStarts g now ∧ r = stampStart now a := by
  obtain ⟨a, member, rfl⟩ := List.mem_map.mp kept
  obtain ⟨there, again⟩ := List.mem_filter.mp member
  obtain ⟨read, due⟩ := memTried (took there)
  refine ⟨a, read, fun done => ?_, rfl⟩
  simp_all [Sent.doneStarts, Sight.startsWith]

theorem keptStopsRead (took : t.stops ⊆ g.dueStops now) {r : Stop} (kept : r ∈ t.keptStops now) :
    ∃ a ∈ g.stops, a ∉ t.doneStops g now ∧ r = stampStop now a := by
  obtain ⟨a, member, rfl⟩ := List.mem_map.mp kept
  obtain ⟨there, again⟩ := List.mem_filter.mp member
  obtain ⟨read, due⟩ := memDueStops.mp (took there)
  refine ⟨a, read, fun done => ?_, rfl⟩
  simp_all [Sent.doneStops, Sight.stopsWith]

structure Seen (policy : Policy) (now : Nat) (s : Store) (g : Sight) : Prop where
  fresh : Cycle.Fresh now policy.freshnessTtl.secs s
  starts : s.starts.scan = .ok g.starts
  stops : s.stops.scan = .ok g.stops
  shows : Cycle.Shows s now g.snapshot

theorem seenUnique {s : Store} {a b : Sight} (one : Seen policy now s a) (two : Seen policy now s b) :
    a = b := by
  have same := Cycle.showsUnique one.shows two.shows
  cases a
  cases b
  cases one.starts.symm.trans two.starts
  cases one.stops.symm.trans two.stops
  exact congrArg _ same

structure Open (s : Surroundings) : Prop where
  freshness : "get_freshness" ∉ s.failing
  starts : "get_pending_starts" ∉ s.failing
  stops : "get_pending_stops" ∉ s.failing
  desired : "get_desired_state" ∉ s.failing
  actual : "get_actual_state" ∉ s.failing

theorem openTaking (accepts : Message → Bool) : Open (.taking accepts) :=
  ⟨List.not_mem_nil, List.not_mem_nil, List.not_mem_nil, List.not_mem_nil, List.not_mem_nil⟩

theorem lookSeen {s : Surroundings} (permitted : Open s) (seen : Seen policy now w.store g) :
    (look policy now).run.run s w = (.ok (.ok g), w) := by
  have first : (Cycle.read .starts .starts).run.run s w = (.ok (.ok g.starts), w) :=
    Cycle.okRead.mpr ⟨permitted.starts, by rw [World.serve, seen.starts]; rfl⟩
  have second : (Cycle.read .stops .stops).run.run s w = (.ok (.ok g.stops), w) :=
    Cycle.okRead.mpr ⟨permitted.stops, by rw [World.serve, seen.stops]; rfl⟩
  rw [look, Cycle.runBindOk (Cycle.freshRun permitted.freshness seen.fresh), Cycle.runBindOk first,
    Cycle.runBindOk second, Cycle.runBindOk (Cycle.showsRun permitted.desired permitted.actual seen.shows)]
  rfl

namespace Sight
variable (g : Sight) (policy : Policy) (now : Nat) (accepts : Message → Bool)

def received : Sent :=
  let starts := answered accepts (startMessage g.snapshot) (g.tried policy now)
  let stops := answered accepts (stopMessage g.snapshot) (g.dueStops now)
  ⟨starts.taken, stops.taken, starts.failed + stops.failed⟩

def attempted : List (Message × Bool) :=
  attempts accepts (startMessage g.snapshot) (g.tried policy now) ++
    attempts accepts (stopMessage g.snapshot) (g.dueStops now)

def raised : List String :=
  (g.received policy now accepts).starts.map (·.reason.counter) ++
    (g.received policy now accepts).stops.map (·.reason.counter)

end Sight

theorem sendOk {t : Sent} (h : (send policy now g).run (.taking accepts) w = (.ok t, w')) :
    t = g.received policy now accepts ∧ w'.sent = w.sent ++ g.attempted policy now accepts ∧
      w.store.Counted w'.store (g.raised policy now accepts) := by
  rw [send, Procedure.runBind] at h
  rcases first : (deliverAll (startMessage g.snapshot) (·.reason.counter)
    (g.tried policy now)).run (.taking accepts) w with ⟨(o | starts), middle⟩ <;>
    rw [first] at h
  · cases h
  simp only [Procedure.runBind] at h
  rcases second : (deliverAll (stopMessage g.snapshot) (·.reason.counter)
    (g.dueStops now)).run (.taking accepts) middle with ⟨(o | stops), last⟩ <;>
    rw [second] at h <;> cases h
  obtain ⟨rfl, sentStarts, countedStarts⟩ := deliverAllOk first
  obtain ⟨rfl, sentStops, countedStops⟩ := deliverAllOk second
  refine ⟨rfl, ?_, countedStarts.trans countedStops⟩
  rw [sentStops, sentStarts, List.append_assoc]
  rfl

theorem sendRoom (room : ∀ m, w.store.tally m + (g.raised policy now accepts).count m ≤ Bounds.instant) :
    ∃ t w', (send policy now g).run (.taking accepts) w = (.ok t, w') := by
  simp only [Sight.raised, List.count_append] at room
  obtain ⟨starts, middle, first⟩ := deliverAllRoom accepts (startMessage g.snapshot)
    (·.reason.counter) (l := g.tried policy now) (w := w)
    (fun m => by have := room m; simp only [Sight.received] at this; omega)
  obtain ⟨same, _, counted⟩ := deliverAllOk first
  obtain ⟨stops, last, second⟩ := deliverAllRoom accepts (stopMessage g.snapshot)
    (·.reason.counter) (l := g.dueStops now) (w := middle)
    (fun m => by
      have := room m
      rw [counted.tally, same]
      simp only [Sight.received] at this
      omega)
  refine ⟨⟨starts.taken, stops.taken, starts.failed + stops.failed⟩, last, ?_⟩
  rw [send, Procedure.runBind, first]
  simp only [Procedure.runBind, second]
  rfl

theorem sendPrefix (policy : Policy) (now : Nat) (g : Sight) (accepts : Message → Bool) (w : World) :
    ∃ tried, ((send policy now g).run (.taking accepts) w).2.sent = w.sent ++ tried ∧
      tried <+: g.attempted policy now accepts := by
  obtain ⟨_, started, sentStarts, firstStarts⟩ := deliverAllFrame accepts (startMessage g.snapshot)
    (·.reason.counter) (g.tried policy now) w
  rw [send, Procedure.runBind]
  cases first : (deliverAll (startMessage g.snapshot) (·.reason.counter)
    (g.tried policy now)).run (.taking accepts) w with
  | mk result middle =>
    rw [first] at sentStarts
    cases result with
    | error o => exact ⟨started, sentStarts, firstStarts.trans (List.prefix_append _ _)⟩
    | ok starts =>
      obtain ⟨_, stopped, sentStops, firstStops⟩ := deliverAllFrame accepts (stopMessage g.snapshot)
        (·.reason.counter) (g.dueStops now) middle
      obtain ⟨_, allStarts, _⟩ := deliverAllOk first
      refine ⟨_ ++ stopped, ?_, (List.prefix_append_right_inj _).mpr firstStops⟩
      rw [← List.append_assoc, ← allStarts, ← sentStops]
      simp only [Procedure.runBind]
      rcases (deliverAll (stopMessage g.snapshot) (·.reason.counter)
        (g.dueStops now)).run (.taking accepts) middle with ⟨(o | stops), last⟩ <;> rfl

def settled (now : Nat) (g : Sight) (t : Sent) (s : Store) : Store :=
  { s with
    starts := ((s.starts.remove ((t.doneStarts g now).map Start.key)).2).put Start.key (t.keptStarts now)
    stops := ((s.stops.remove ((t.doneStops g now).map Stop.key)).2).put Stop.key (t.keptStops now) }

theorem settleRun (now : Nat) (g : Sight) (t : Sent) (accepts : Message → Bool) (w : World) :
    (settle now g t).run.run (.taking accepts) w =
      (.ok (.ok ()), { w with store := settled now g t w.store }) := by
  rw [settle, Cycle.runBindOk (Cycle.runWrite rfl), Cycle.runBindOk (Cycle.runWrite rfl),
    Cycle.runBindOk (Cycle.runWrite rfl), Cycle.runWrite rfl]
  rfl

theorem dispatchSent {t : Sent} (seen : Seen policy now w.store g)
    (sent : (send policy now g).run (.taking accepts) w = (.ok t, w')) :
    dispatch policy now (.taking accepts) w =
      (.ok (conclude policy now g t), { w' with store := settled now g t w'.store }) := by
  have lifted : (ExceptT.lift (send policy now g) : Cycle Sent).run.run (.taking accepts) w =
      (.ok (.ok t), w') := by rw [Cycle.runLift, sent]
  change (cycle policy now).run.run (.taking accepts) w = _
  rw [cycle, Cycle.runBindOk (lookSeen (openTaking accepts) seen), Cycle.runBindOk lifted,
    Cycle.runBindOk (settleRun now g t accepts w')]
  rfl

theorem dispatchTried (seen : Seen policy now w.store g) :
    ∃ tried, (dispatch policy now (.taking accepts) w).2.sent = w.sent ++ tried ∧
      tried <+: g.attempted policy now accepts ∧
      ∀ r, (dispatch policy now (.taking accepts) w).1 = .ok r →
        tried = g.attempted policy now accepts := by
  cases sent : (send policy now g).run (.taking accepts) w with
  | mk result w' =>
    cases result with
    | ok t =>
      rw [dispatchSent seen sent]
      exact ⟨_, (sendOk sent).2.1, List.prefix_rfl, fun _ _ => rfl⟩
    | error o =>
      have lifted : (ExceptT.lift (send policy now g) : Cycle Sent).run.run (.taking accepts) w =
          (.error o, w') := by rw [Cycle.runLift, sent]
      have halted : dispatch policy now (.taking accepts) w = (.error o, w') := by
        change (cycle policy now).run.run (.taking accepts) w = _
        rw [cycle, Cycle.runBindOk (lookSeen (openTaking accepts) seen), Cycle.runBindHalt lifted]
      obtain ⟨tried, same, first⟩ := sendPrefix policy now g accepts w
      rw [sent] at same
      rw [halted]
      exact ⟨tried, same, first, fun r h => nomatch h⟩

end Dispatch
end Fleet
