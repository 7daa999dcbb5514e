import Fleet.Proofs.Cycles

/-! Sending a list of messages: every one is tried in order, those that the receiver
takes come back, and each of them is counted once. Only a counter at the largest
instant ends the sending early. -/
namespace Fleet

namespace Store

def tally (s : Store) (metric : String) : Nat := (s.metrics.get? metric).getD 0

def counted (s : Store) (metric : String) : Store :=
  { s with metrics := s.metrics.insert metric (s.tally metric + 1) }

structure Counted (s t : Store) (names : List String) : Prop where
  rest : t = { s with metrics := t.metrics }
  metrics : ∀ m, t.metrics.get? m =
    if m ∈ names then some (s.tally m + names.count m) else s.metrics.get? m

theorem incrementOk {s : Store} {m : String} (room : s.tally m < Bounds.instant) :
    s.increment m = .ok (s.tally m + 1, s.counted m) := by
  have fits : exactSum (s.tally m) 1 = .ok (s.tally m + 1) := exactSumOk.mpr ⟨room, rfl⟩
  unfold tally at fits
  simp only [increment, bind, Except.bind, fits]
  rfl

theorem incrementFull {s : Store} {m : String} (full : ¬ s.tally m < Bounds.instant) :
    s.increment m = .error .sum := by
  have large : exactSum (s.tally m) 1 = .error .sum := if_neg full
  unfold tally at large
  simp only [increment, bind, Except.bind, large]

theorem countedNone (s : Store) : Counted s s [] := ⟨rfl, by simp⟩

theorem Counted.tally {s t : Store} {names : List String} (c : Counted s t names) (m : String) :
    t.tally m = s.tally m + names.count m := by
  unfold Store.tally
  rw [c.metrics]
  by_cases member : m ∈ names
  · simp [member, Store.tally]
  · simp [member, List.count_eq_zero_of_not_mem member]

theorem Counted.trans {s t u : Store} {names more : List String} (first : Counted s t names)
    (second : Counted t u more) : Counted s u (names ++ more) := by
  refine ⟨?_, fun m => ?_⟩
  · rw [second.rest, first.rest]
  · rw [second.metrics, first.tally, first.metrics]
    by_cases here : m ∈ more
    · simp [here, List.count_append, Nat.add_assoc]
    · by_cases there : m ∈ names <;> simp [here, there, List.count_eq_zero_of_not_mem]

theorem countedOnce (s : Store) (m : String) : Counted s (s.counted m) [m] := by
  refine ⟨rfl, fun j => ?_⟩
  rw [counted, Table.getInsert]
  by_cases same : j = m <;> simp [same]

end Store

namespace Dispatch
variable {α : Type} {accepts : Message → Bool} {w w' : World}

theorem deliverRefused {m : Message} (refused : accepts m = false) (counter : String) :
    (deliver m counter).run (.taking accepts) w = (.ok false, ⟨w.store, w.sent ++ [(m, false)]⟩) := by
  simp [deliver, Procedure.run, Cycle.attemptTaking, World.serve, refused]

theorem deliverTaken {m : Message} (taken : accepts m = true) {counter : String}
    (room : w.store.tally counter < Bounds.instant) :
    (deliver m counter).run (.taking accepts) w =
      (.ok true, ⟨w.store.counted counter, w.sent ++ [(m, true)]⟩) := by
  simp [deliver, Procedure.run, Cycle.attemptTaking, World.serve, taken, Store.incrementOk room,
    Except.map, World.withStore]

theorem deliverFull {m : Message} (taken : accepts m = true) {counter : String}
    (full : ¬ w.store.tally counter < Bounds.instant) :
    (deliver m counter).run (.taking accepts) w =
      (.error .sum, ⟨w.store, w.sent ++ [(m, true)]⟩) := by
  simp [deliver, Procedure.run, Cycle.attemptTaking, World.serve, taken, Store.incrementFull full,
    Except.map]

variable {message : α → Message} {counter : α → String}

def attempts (accepts : Message → Bool) (message : α → Message) (l : List α) :
    List (Message × Bool) := l.map fun a => (message a, accepts (message a))

def answered (accepts : Message → Bool) (message : α → Message) (l : List α) : Answered α :=
  ⟨l.filter fun a => accepts (message a), l.countP fun a => !accepts (message a)⟩

theorem answeredCons (accepts : Message → Bool) (message : α → Message) (a : α) (l : List α) :
    answered accepts message (a :: l) = (answered accepts message l).add a (accepts (message a)) := by
  cases took : accepts (message a) <;> simp [answered, Answered.add, took]

theorem deliverAllRefused {a : α} (refused : accepts (message a) = false) (l : List α) (w : World) :
    (deliverAll message counter (a :: l)).run (.taking accepts) w =
      let r := (deliverAll message counter l).run (.taking accepts)
        ⟨w.store, w.sent ++ [(message a, false)]⟩
      (r.1.map (·.add a false), r.2) := by
  rw [deliverAll, Procedure.runBind, deliverRefused refused]
  simp only [Procedure.runBind]
  rcases (deliverAll message counter l).run (.taking accepts)
    ⟨w.store, w.sent ++ [(message a, false)]⟩ with ⟨(o | others), w'⟩ <;> rfl

theorem deliverAllTaken {a : α} (took : accepts (message a) = true)
    (room : w.store.tally (counter a) < Bounds.instant) (l : List α) :
    (deliverAll message counter (a :: l)).run (.taking accepts) w =
      let r := (deliverAll message counter l).run (.taking accepts)
        ⟨w.store.counted (counter a), w.sent ++ [(message a, true)]⟩
      (r.1.map (·.add a true), r.2) := by
  rw [deliverAll, Procedure.runBind, deliverTaken took room]
  simp only [Procedure.runBind]
  rcases (deliverAll message counter l).run (.taking accepts)
    ⟨w.store.counted (counter a), w.sent ++ [(message a, true)]⟩ with ⟨(o | others), w'⟩ <;> rfl

theorem deliverAllFull {a : α} (took : accepts (message a) = true)
    (full : ¬ w.store.tally (counter a) < Bounds.instant) (l : List α) :
    (deliverAll message counter (a :: l)).run (.taking accepts) w =
      (.error .sum, ⟨w.store, w.sent ++ [(message a, true)]⟩) := by
  rw [deliverAll, Procedure.runBind, deliverFull took full]

theorem deliverAllOk {l : List α} {r : Answered α}
    (h : (deliverAll message counter l).run (.taking accepts) w = (.ok r, w')) :
    r = answered accepts message l ∧ w'.sent = w.sent ++ attempts accepts message l ∧
      w.store.Counted w'.store (r.taken.map counter) := by
  induction l generalizing w w' r with
  | nil => cases h; exact ⟨rfl, by simp [attempts], Store.countedNone _⟩
  | cons a l ih =>
    cases answer : accepts (message a) with
    | false =>
      rw [deliverAllRefused answer] at h
      rcases rest : (deliverAll message counter l).run (.taking accepts)
        ⟨w.store, w.sent ++ [(message a, false)]⟩ with ⟨(o | others), w''⟩ <;>
        rw [rest] at h <;> cases h
      obtain ⟨same, sent, counted⟩ := ih rest
      exact ⟨by rw [answeredCons, answer, same], by simpa [attempts, answer] using sent, counted⟩
    | true =>
      by_cases room : w.store.tally (counter a) < Bounds.instant
      · rw [deliverAllTaken answer room] at h
        rcases rest : (deliverAll message counter l).run (.taking accepts)
          ⟨w.store.counted (counter a), w.sent ++ [(message a, true)]⟩ with ⟨(o | others), w''⟩ <;>
          rw [rest] at h <;> cases h
        obtain ⟨same, sent, counted⟩ := ih rest
        exact ⟨by rw [answeredCons, answer, same], by simpa [attempts, answer] using sent,
          (Store.countedOnce _ _).trans counted⟩
      · rw [deliverAllFull answer room] at h
        cases h

theorem deliverAllRoom (accepts : Message → Bool) (message : α → Message) (counter : α → String)
    {l : List α} (room : ∀ m, w.store.tally m +
      ((answered accepts message l).taken.map counter).count m ≤ Bounds.instant) :
    ∃ r w', (deliverAll message counter l).run (.taking accepts) w = (.ok r, w') := by
  induction l generalizing w with
  | nil => exact ⟨_, _, rfl⟩
  | cons a l ih =>
    cases answer : accepts (message a) with
    | false =>
      obtain ⟨r, w', rest⟩ := ih (w := ⟨w.store, w.sent ++ [(message a, false)]⟩)
        (fun m => by simpa [answered, answer] using room m)
      rw [deliverAllRefused answer]
      exact ⟨_, _, by rw [rest]; rfl⟩
    | true =>
      have kept : (answered accepts message (a :: l)).taken =
          a :: (answered accepts message l).taken := by simp [answered, answer]
      rw [kept, List.map_cons] at room
      have here := room (counter a)
      rw [List.count_cons_self] at here
      rw [deliverAllTaken answer (by omega)]
      obtain ⟨r, w', rest⟩ := ih (w := ⟨w.store.counted (counter a), w.sent ++ [(message a, true)]⟩)
        (fun m => by
          have each := room m
          rw [List.count_cons] at each
          rw [(Store.countedOnce _ _).tally, List.count_singleton]
          omega)
      exact ⟨_, _, by rw [rest]; rfl⟩

theorem deliverAllFrame (accepts : Message → Bool) (message : α → Message) (counter : α → String)
    (l : List α) (w : World) :
    let r := (deliverAll message counter l).run (.taking accepts) w
    r.2.store = { w.store with metrics := r.2.store.metrics } ∧
      ∃ tried, r.2.sent = w.sent ++ tried ∧ tried <+: attempts accepts message l := by
  induction l generalizing w with
  | nil => exact ⟨rfl, [], by simp [deliverAll, Procedure.run], List.nil_prefix⟩
  | cons a l ih =>
    cases answer : accepts (message a) with
    | false =>
      rw [deliverAllRefused answer]
      obtain ⟨frame, tried, sent, known⟩ := ih ⟨w.store, w.sent ++ [(message a, false)]⟩
      exact ⟨frame, (message a, false) :: tried, by simp [sent], by simpa [attempts, answer] using known⟩
    | true =>
      by_cases room : w.store.tally (counter a) < Bounds.instant
      · rw [deliverAllTaken answer room]
        obtain ⟨frame, tried, sent, known⟩ :=
          ih ⟨w.store.counted (counter a), w.sent ++ [(message a, true)]⟩
        exact ⟨frame, (message a, true) :: tried, by simp [sent],
          by simpa [attempts, answer] using known⟩
      · rw [deliverAllFull answer room]
        exact ⟨rfl, [(message a, true)], rfl, by simp [attempts, answer]⟩

end Dispatch
end Fleet
