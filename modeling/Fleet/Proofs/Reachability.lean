import Fleet.Proofs.Chronicle

/-! Stores that any sequence of operations leads to from an empty one: those of whole
cycles, taken alone or in turns, and every other call to the store. In all of them each
record stands under its own key. -/
namespace Fleet
namespace Store

structure Keyed (s : Store) : Prop where
  desired : Rows.Own (fun spec => spec.app.key) s.desired
  actual : Rows.Own Heartbeat.key s.actual
  crashCounts : Rows.Own CrashCount.key s.crashCounts
  starts : Rows.Own Start.key s.starts
  stops : Rows.Own Stop.key s.stops

inductive Reachable (ttl : Span) : Store → Prop
  | empty : Reachable ttl (.empty ttl)
  | sync {s : Store} (specs : List Spec) (now : Nat) : Reachable ttl s →
      Reachable ttl (s.syncDesired specs now)
  | report {s : Store} (heartbeats : List Heartbeat) (receivedAt : Nat) : Reachable ttl s →
      Reachable ttl (s.saveActual heartbeats receivedAt)
  | refreshDesired {s : Store} (time : Nat) : Reachable ttl s → Reachable ttl (s.markDesiredFresh time)
  | refreshActual {s : Store} (time : Nat) : Reachable ttl s → Reachable ttl (s.markActualFresh time)
  | reap {s s' : Store} {now n : Nat} : Reachable ttl s → s.reap now = .ok (n, s') → Reachable ttl s'
  | serve {w w' : World} {accepts : Message → Bool} {c : Call} {r : Except StoreError c.Reply} :
      Reachable ttl w.store → w.serve accepts c = .ok (r, w') → Reachable ttl w'.store

variable {ttl : Span} {s s' : Store}

theorem specSettleKey (spec a : Spec) (settled : Record.settle spec = some a) : a.app.key = spec.app.key := by
  rw [Spec.settle] at settled
  cases settled
  rfl

theorem emptyKeyed (ttl : Span) : (empty ttl).Keyed :=
  ⟨Rows.ownEmpty, Rows.ownEmpty, Rows.ownEmpty, Rows.ownEmpty, Rows.ownEmpty⟩

theorem serveKeyed {w w' : World} {accepts : Message → Bool} {c : Call} {r : Except StoreError c.Reply}
    (keyed : w.store.Keyed) (served : w.serve accepts c = .ok (r, w')) : w'.store.Keyed := by
  have attempted : Procedure.attempt (.taking accepts) c w = .ok (r, w') :=
    (Cycle.attemptTaking c w).trans served
  have acts := Procedure.attemptActs attempted
  have starts := (Queue.starts.served attempted).1
  have stops := (Queue.stops.served attempted).1
  refine ⟨acts.desired ▸ keyed.desired, acts.actual ▸ keyed.actual, acts.filed keyed.crashCounts, ?_, ?_⟩
  · have own : Rows.Own Queue.starts.key (Queue.starts.rows w'.store) :=
      starts ▸ Queue.ownApply keyed.starts (Queue.starts.move c r)
    exact own
  · have own : Rows.Own Queue.stops.key (Queue.stops.rows w'.store) :=
      stops ▸ Queue.ownApply keyed.stops (Queue.stops.move c r)
    exact own

theorem reapedRest {now n : Nat} (reaped : s.reap now = .ok (n, s')) :
    ∃ gone, s' = { s with actual := (s.actual.remove gone).2 } := by
  unfold reap at reaped
  cases scan : s.actual.scan with
  | error e => rw [scan] at reaped; cases reaped
  | ok hs =>
    rw [scan] at reaped
    cases reaped
    exact ⟨_, rfl⟩

theorem reachableKeyed (reachable : s.Reachable ttl) : s.Keyed := by
  induction reachable with
  | empty => exact emptyKeyed ttl
  | sync specs now _ keyed =>
    exact { keyed with desired := Rows.ownPut specSettleKey Rows.ownEmpty specs }
  | report heartbeats receivedAt _ keyed =>
    exact { keyed with actual := Rows.ownPut Heartbeat.settleKey keyed.actual heartbeats }
  | refreshDesired time _ keyed => exact { keyed with }
  | refreshActual time _ keyed => exact { keyed with }
  | reap _ reaped keyed =>
    obtain ⟨gone, rfl⟩ := reapedRest reaped
    exact { keyed with actual := Rows.ownRemove keyed.actual gone }
  | serve _ served keyed => exact serveKeyed keyed served

theorem specOf (keyed : s.Keyed) {desired : List Spec} (read : s.desiredState = .ok desired)
    {spec spec' : Spec} (member : spec ∈ desired) (member' : spec' ∈ desired)
    (same : spec.app.key = spec'.app.key) : spec = spec' :=
  List.inj_on_of_nodup_map (Rows.ownScanDistinct keyed.desired read) member member' same

theorem serveFrame {w w' : World} {accepts : Message → Bool} {c : Call} {r : Except StoreError c.Reply}
    (served : w.serve accepts c = .ok (r, w')) : ∃ crashCounts starts stops metrics lastId,
      w'.store = { w.store with crashCounts, starts, stops, metrics, lastId } := by
  cases c with
  | reserveIds n =>
    obtain ⟨lastId, rfl⟩ := World.reserved served
    exact ⟨_, _, _, _, _, rfl⟩
  | increment m =>
    obtain ⟨metrics, rfl⟩ := World.incremented served
    exact ⟨_, _, _, _, _, rfl⟩
  | _ => cases served; exact ⟨_, _, _, _, _, rfl⟩

theorem serveTtl {w w' : World} {accepts : Message → Bool} {c : Call} {r : Except StoreError c.Reply}
    (served : w.serve accepts c = .ok (r, w')) : w'.store.heartbeatTtl = w.store.heartbeatTtl := by
  obtain ⟨_, _, _, _, _, same⟩ := serveFrame served
  rw [same]

theorem reachableTtl (reachable : s.Reachable ttl) : s.heartbeatTtl = ttl.secs := by
  induction reachable with
  | empty => rfl
  | sync specs now _ same => exact same
  | report heartbeats receivedAt _ same => exact same
  | refreshDesired time _ same => exact same
  | refreshActual time _ same => exact same
  | reap _ reaped same =>
    obtain ⟨gone, rfl⟩ := reapedRest reaped
    exact same
  | serve _ served same => exact (serveTtl served).trans same

theorem runReachable {α : Type} (p : Procedure α) (surroundings : Surroundings) {w : World}
    (reachable : w.store.Reachable ttl) : (p.run surroundings w).2.store.Reachable ttl := by
  refine Procedure.runKeeps (motive := fun w => w.store.Reachable ttl) (fun attempted reachable => ?_) p reachable
  rcases Procedure.attemptServed attempted with rfl | served
  · exact reachable
  · exact .serve reachable served

theorem deedReachable (reachable : s.Reachable ttl) (policy : Policy) (deed : Deed) :
    (deed.apply policy s).Reachable ttl := by
  cases deed with
  | sync specs now => exact .sync specs now reachable
  | flush batch =>
    rw [Deed.apply, Intake.flushStore]
    split
    · exact reachable
    · exact .report _ _ reachable
  | reap now =>
    simp only [Deed.apply]
    cases reaped : s.reap now with
    | error e => exact reachable
    | ok r => exact .reap reachable reaped
  | analysis now failing => exact runReachable _ { failing } reachable
  | dispatch now failing accepts => exact runReachable _ { failing, accepts } reachable

theorem deedsReachable (reachable : s.Reachable ttl) (policy : Policy) (deeds : List Deed) :
    (deeds.foldl (Deed.apply policy) s).Reachable ttl :=
  List.foldlRecOn (motive := Reachable ttl) deeds _ reachable
    fun _ reachable deed _ => deedReachable reachable policy deed

theorem afterReachable (policy : Policy) (ttl : Span) (deeds : List Deed) :
    (after policy ttl deeds).Reachable ttl := deedsReachable .empty policy deeds

theorem chronicleReachable (ttl : Span) (run : List (Policy × Deed)) :
    (Chronicle.after ttl run).store.Reachable ttl :=
  List.foldlRecOn (motive := fun c : Chronicle => c.store.Reachable ttl) run _ .empty
    fun _ reachable turn _ => deedReachable reachable turn.1 turn.2

end Store
end Fleet
