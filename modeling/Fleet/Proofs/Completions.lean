import Fleet.Proofs.Delays
import Fleet.Proofs.Enqueues
import Fleet.Proofs.RunningIndices

/-! How an analysis ends that can reserve ids for all its actions. It saves them and comes to a
report, with one exception: it also counts up behind the last id that it gives out, so when that
one is the last id there is, it halts with the ids reserved and nothing saved. No other number
of the cycle leaves its range. -/
namespace Fleet

theorem Store.reserveWithin {s : Store} {n : Nat} (some : 0 < n) (fits : s.lastId + n ≤ Bounds.instant) :
    s.reserveIds n = .ok (s.lastId + 1, { s with lastId := s.lastId + n }) := by
  have first : exactSum s.lastId 1 = .ok (s.lastId + 1) := exactSumOk.mpr ⟨by omega, rfl⟩
  have last : exactSum s.lastId n = .ok (s.lastId + n) := exactSumOk.mpr ⟨fits, rfl⟩
  rw [reserveIds, first, last]
  rfl

namespace Proposal
variable {policy : Policy} {log : CrashLog} {now : Nat} {v : View}

theorem startsWithin (time : now ≤ Bounds.instant) {a : Start}
    (member : a ∈ (ofView policy log now v).starts) : a.delivery.sendOn ≤ Bounds.instant := by
  obtain ⟨i, _, proposed⟩ := startsProposed member
  rcases startForCases proposed with ⟨_, rfl⟩ | ⟨_, rfl⟩ | ⟨_, rfl⟩
  · exact afterLe _ _
  · exact afterLe _ _
  · exact time

theorem stopsWithin (time : now ≤ Bounds.instant) {a : Stop}
    (member : a ∈ (ofView policy log now v).stops) : a.delivery.sendOn ≤ Bounds.instant := by
  obtain ⟨_, h, _, ⟨reason, rfl⟩ | ⟨d, rfl⟩⟩ := memStopsTimed member
  · exact time
  · exact afterLe _ _

theorem countsWithin {c : CrashCount} (member : c ∈ (ofView policy log now v).crashCounts) :
    c.count ≤ Bounds.count := by
  unfold ofView at member
  split at member
  · cases member
  · obtain ⟨i, _, raised⟩ := List.mem_filterMap.mp member
    rw [crashFor, Option.ite_none_right_eq_some] at raised
    cases raised.2
    exact Nat.min_le_right _ _

structure InRange (policy : Policy) (log : CrashLog) (now : Nat) (v : View) : Prop where
  running : ∀ i n, v.running.get? i = some n → n ≤ Bounds.count
  satisfied : v.satisfied ≤ Bounds.count
  numerator : v.satisfied ≤ v.target
  ranks : ∀ i, (v.liveAt i).length ≤ Bounds.count
  waits : ∀ n, (policy.backoff.delay n).nanos ≤ policy.backoff.maximumDelay.nanos
  starts : ∀ a ∈ (ofView policy log now v).starts, a.delivery.sendOn ≤ Bounds.instant
  stops : ∀ a ∈ (ofView policy log now v).stops, a.delivery.sendOn ≤ Bounds.instant
  counts : ∀ c ∈ (ofView policy log now v).crashCounts, c.count ≤ Bounds.count

theorem inRange (few : v.heartbeats.length ≤ Bounds.count) (time : now ≤ Bounds.instant)
    (policy : Policy) (log : CrashLog) : InRange policy log now v where
  running i n held := by
    have := v.liveAtFew i
    have := (View.runningSome.mp held).2
    omega
  satisfied := v.satisfiedFew.trans few
  numerator := v.satisfiedWithin
  ranks i := (v.liveAtFew i).trans few
  waits := policy.backoff.delayLongest
  starts _ := startsWithin time
  stops _ := stopsWithin time
  counts _ := countsWithin

end Proposal

namespace Analysis
variable {policy : Policy} {now : Nat} {failing : List String} {w : World} {g : Sight} {d : Decision}

theorem numberBelow {last : Nat} (room : last + d.total < Bounds.instant) :
    ∃ d', d.number (last + 1) = .ok d' := by
  have sum : exactSum (last + 1) d.total = .ok (last + 1 + d.total) := exactSumOk.mpr ⟨by omega, rfl⟩
  rw [Decision.number, sum]
  exact ⟨_, rfl⟩

theorem numberLast {last : Nat} (full : last + d.total = Bounds.instant) :
    d.number (last + 1) = .error .sum := by
  have sum : exactSum (last + 1) d.total = .error .sum := if_neg (by omega)
  rw [Decision.number, sum]
  rfl

structure Unrefused (failing : List String) : Prop extends Open { failing } where
  ids : "allocate_message_ids" ∉ failing
  analysis : "save_analysis" ∉ failing

section
variable (work : 0 < d.total) (fits : w.store.lastId + d.total ≤ Bounds.instant)
  (may : "allocate_message_ids" ∉ failing)
include work fits may

theorem numberedRun : (numbered d).run.run { failing } w =
    match d.number (w.store.lastId + 1) with
    | .ok d' => (.ok (.ok d'), w.skipIds d.total)
    | .error o => (.error o, w.skipIds d.total) := by
  have served : w.serve (fun _ => true) (.reserveIds d.total) =
      .ok (.ok (w.store.lastId + 1), w.skipIds d.total) := by
    rw [World.serve, Store.reserveWithin work fits]
    rfl
  rcases Cycle.runWriteEither (s := { failing }) .messageIds served with ⟨_, refused, _⟩ | ⟨_, run⟩
  · exact absurd refused may
  · rw [numbered, if_neg (Nat.ne_of_gt work), Cycle.runBindOk run]
    cases d.number (w.store.lastId + 1) <;> rfl

end

section
variable (may : Unrefused failing) (seen : Seen policy now w.store g)
  (work : 0 < (g.draft policy now).total)
include may seen work

theorem analyzeBelow (room : w.store.lastId + (g.draft policy now).total < Bounds.instant) :
    ∃ r w' d, analyze policy now { failing } w = (.ok (.ok r), w') ∧
      Concludes policy now failing w.store w'.store r g d := by
  obtain ⟨d, number⟩ := numberBelow room
  have numbers := numberedAs number
  have numbered := numberedRun work (Nat.le_of_lt room) may.ids
  rw [number, ← numbersTotal numbers] at numbered
  have saves : (w.skipIds d.total).serve (fun _ => true)
      (.saveAnalysis d.starts d.stops d.crashCounts) = .ok (.ok (), _) := rfl
  rcases Cycle.runWriteEither (s := { failing }) .analysis saves with ⟨_, refused, _⟩ | ⟨_, saved⟩
  · exact absurd refused may.analysis
  · change ∃ r w' d, (cycle policy now).run.run { failing } w = _ ∧ _
    rw [cycle, Cycle.runBindOk (lookSeen may.toOpen seen), Cycle.runBindOk numbered,
      Cycle.runBindOk saved, Cycle.runBindOk (removeRun _ _ _)]
    exact ⟨_, _, d, rfl, seen, numbers, ⟨_, rfl⟩, rfl⟩

theorem analyzeLast (full : w.store.lastId + (g.draft policy now).total = Bounds.instant) :
    analyze policy now { failing } w = (.error .sum, w.skipIds (g.draft policy now).total) := by
  have numbered := numberedRun work (Nat.le_of_eq full) may.ids
  rw [numberLast full] at numbered
  change (cycle policy now).run.run { failing } w = _
  rw [cycle, Cycle.runBindOk (lookSeen may.toOpen seen)]
  exact Cycle.runBindHalt numbered

end

structure Persists (d : Decision) (s : Store) : Prop where
  starts : ∀ a ∈ d.starts, ∃ b ∈ d.starts, b.key = a.key ∧ s.starts.get? a.key = some (.held b)
  stops : ∀ a ∈ d.stops, ∃ b ∈ d.stops, b.key = a.key ∧ s.stops.get? a.key = some (.held b)

theorem concludedPersists {s s' : Store} {r : Report}
    (done : Concludes policy now failing s s' r g d) : Persists d s' := by
  have starts : s'.starts = s.starts.put Start.key d.starts := by rw [done.store]; rfl
  have stops : s'.stops = s.stops.put Stop.key d.stops := by rw [done.store]; rfl
  constructor
  · intro a member
    rw [starts]
    exact Rows.getPutSome ⟨a, member, rfl⟩
  · intro a member
    rw [stops]
    exact Rows.getPutSome ⟨a, member, rfl⟩

theorem reservedCompletes (may : Unrefused failing) (seen : Seen policy now w.store g)
    (work : 0 < (g.draft policy now).total)
    (fits : w.store.lastId + (g.draft policy now).total ≤ Bounds.instant)
    (few : ∀ v ∈ g.snapshot.apps, v.heartbeats.length ≤ Bounds.count) (time : now ≤ Bounds.instant) :
    ((∃ r w' d, analyze policy now { failing } w = (.ok (.ok r), w') ∧
        Concludes policy now failing w.store w'.store r g d ∧ Persists d w'.store) ↔
      w.store.lastId + (g.draft policy now).total < Bounds.instant) ∧
    (w.store.lastId + (g.draft policy now).total = Bounds.instant →
      analyze policy now { failing } w = (.error .sum, w.skipIds (g.draft policy now).total)) ∧
    ∀ v ∈ g.snapshot.apps, Proposal.InRange policy g.log now v := by
  have last := analyzeLast may seen work
  refine ⟨⟨?_, fun room => ?_⟩, last, fun v shown => Proposal.inRange (few v shown) time policy g.log⟩
  · rintro ⟨r, w', d, ended, _⟩
    refine Nat.lt_of_le_of_ne fits fun full => ?_
    cases ended.symm.trans (last full)
  · obtain ⟨r, w', d, ended, done⟩ := analyzeBelow may seen work room
    exact ⟨r, w', d, ended, done, concludedPersists done⟩

def brimming (last : Nat) : Store :=
  let s := (Store.empty (.ofSecs 30)).syncDesired [⟨⟨"web", "v1"⟩, 1, .started, .staged, 0⟩] 1000
  { s.saveActual [⟨⟨"web", "v1"⟩, 0, "a", .crashed, 1000⟩, ⟨⟨"old", "v1"⟩, 0, "b", .running, 1000⟩] 1000 with
    lastId := last }

def brimmingSight : Sight where
  snapshot := .ofState [⟨⟨"web", "v1"⟩, 1, .started, .staged, 0⟩]
    [⟨⟨"old", "v1"⟩, 0, "b", .running, 1000⟩, ⟨⟨"web", "v1"⟩, 0, "a", .crashed, 1000⟩]
  log := .ofList [] (.ofSecs 1920)
  starts := []
  stops := []

theorem brimmingSeen (last : Nat) : Seen {} 1000 (brimming last) brimmingSight := by
  have desired : (brimming 0).desiredState = .ok [⟨⟨"web", "v1"⟩, 1, .started, .staged, 0⟩] := by
    decide +kernel
  have actual : (brimming 0).actualState 1000 = .ok [⟨⟨"old", "v1"⟩, 0, "b", .running, 1000⟩,
    ⟨⟨"web", "v1"⟩, 0, "a", .crashed, 1000⟩] := by decide +kernel
  exact ⟨⟨rfl, rfl⟩, ⟨_, _, desired, actual, rfl⟩, ⟨[], rfl, rfl⟩, ⟨[], rfl, rfl⟩, ⟨[], rfl, rfl⟩⟩

theorem brimmingTotal : (brimmingSight.draft {} 1000).total = 2 := by decide +kernel

theorem noneRefused : Unrefused [] where
  freshness := List.not_mem_nil
  desired := List.not_mem_nil
  actual := List.not_mem_nil
  crashCounts := List.not_mem_nil
  starts := List.not_mem_nil
  stops := List.not_mem_nil
  ids := List.not_mem_nil
  analysis := List.not_mem_nil

theorem brimmingCompletes :
    (brimming 18446744073709551612).lastId + (brimmingSight.draft {} 1000).total + 1 = Bounds.instant ∧
    ∃ r w' d, analyze {} 1000 {} ⟨brimming 18446744073709551612, []⟩ = (.ok (.ok r), w') ∧
      Concludes {} 1000 [] (brimming 18446744073709551612) w'.store r brimmingSight d ∧
      Persists d w'.store := by
  have few : ∀ v ∈ brimmingSight.snapshot.apps, v.heartbeats.length ≤ Bounds.count := by decide +kernel
  have total := brimmingTotal
  have completes := reservedCompletes (w := ⟨brimming 18446744073709551612, []⟩) noneRefused
    (brimmingSeen _) (by rw [total]; decide) (by rw [total]; decide) few (by decide)
  exact ⟨by rw [total]; rfl, completes.1.mpr (by rw [total]; decide)⟩

/-- The stop is given the last id. Both ids are reserved, and neither action is saved. -/
theorem brimmingHalts :
    let s := brimming 18446744073709551613
    s.Reachable (.ofSecs 30) ∧ Seen {} 1000 s brimmingSight ∧
      s.reserveIds (brimmingSight.draft {} 1000).total =
        .ok (18446744073709551614, { s with lastId := Bounds.instant }) ∧
      analyze {} 1000 {} ⟨s, []⟩ = (.error .sum, ⟨{ s with lastId := Bounds.instant }, []⟩) ∧
      s.starts = .empty ∧ s.stops = .empty := by
  intro s
  have total := brimmingTotal
  have served : (⟨.empty (.ofSecs 30), []⟩ : World).serve (fun _ => true)
      (.reserveIds 18446744073709551613) =
        .ok (.ok 1, ⟨{ Store.empty (.ofSecs 30) with lastId := 18446744073709551613 }, []⟩) := by
    rw [World.serve, Store.reserveWithin (by decide) (by decide)]
    rfl
  have reachable : s.Reachable (.ofSecs 30) := .report _ _ (.sync _ _ (.serve .empty served))
  have full : s.lastId + (brimmingSight.draft {} 1000).total = Bounds.instant := by rw [total]; rfl
  refine ⟨reachable, brimmingSeen _, ?_, ?_, rfl, rfl⟩
  · rw [Store.reserveWithin (by rw [total]; decide) (Nat.le_of_eq full), full]
    rfl
  · rw [analyzeLast (w := ⟨s, []⟩) noneRefused (brimmingSeen _) (by rw [total]; decide) full,
      World.skipIds, full]

end Analysis
end Fleet
