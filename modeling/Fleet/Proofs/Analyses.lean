import Fleet.Proofs.Conduct
import Fleet.Proofs.Refusals

/-! What an analysis cycle comes to when any of its calls may be refused. It ends before
it saves, with the store as it was but for ids given out for nothing; or its save is
refused; or the actions it numbered, and its counts, are in the store, and the counts that
have outlived their time are out of it unless that call was refused. -/
namespace Fleet

def World.skipIds (w : World) (n : Nat) : World :=
  { w with store := { w.store with lastId := w.store.lastId + n } }

def Call.decision? : Call → Option Analysis.Decision
  | .saveAnalysis opened closed counts => some ⟨opened, closed, counts⟩
  | _ => none

namespace Analysis
variable {policy : Policy} {now : Nat} {s : Surroundings} {w w' : World} {g : Sight} {d : Decision}

def decisions (calls : List Call) : List Decision := calls.filterMap Call.decision?

structure Seen (policy : Policy) (now : Nat) (s : Store) (g : Sight) : Prop where
  fresh : Cycle.Fresh now policy.freshnessTtl.secs s
  shows : Cycle.Shows s now g.snapshot
  log : ∃ counts, s.crashCounts.scan = .ok counts ∧ g.log = .ofList counts policy.backoff.counterTtl
  starts : ∃ starts, s.starts.scan = .ok starts ∧ g.starts = starts.map Start.key
  stops : ∃ stops, s.stops.scan = .ok stops ∧ g.stops = stops.map Stop.key

structure Open (s : Surroundings) : Prop where
  freshness : "get_freshness" ∉ s.failing
  desired : "get_desired_state" ∉ s.failing
  actual : "get_actual_state" ∉ s.failing
  crashCounts : "get_crash_counters" ∉ s.failing
  starts : "get_pending_starts" ∉ s.failing
  stops : "get_pending_stops" ∉ s.failing

theorem lookLooks (policy : Policy) (now : Nat) (s : Surroundings) (w : World) :
    Cycle.Looks s w (look policy now) (Seen policy now w.store) := by
  refine Cycle.looksBind (Cycle.looksFresh now _) fun _ fresh => ?_
  refine Cycle.looksBind (Cycle.looksSnapshot now) fun v shows => ?_
  refine Cycle.looksBind (Cycle.looksRead rfl) fun counts one => ?_
  refine Cycle.looksBind (Cycle.looksRead rfl) fun starts two => ?_
  refine Cycle.looksBind (Cycle.looksRead rfl) fun stops three => ?_
  exact Cycle.looksPure ⟨fresh, shows, ⟨counts, one, rfl⟩, ⟨starts, two, rfl⟩, ⟨stops, three, rfl⟩⟩

theorem lookedSeen (looked : (look policy now).run.run s w = (.ok (.ok g), w')) :
    Seen policy now w.store g := by
  rcases lookLooks policy now s w with ⟨g', seen, run⟩ | ⟨e, run⟩ <;>
    rw [run] at looked <;> cases looked
  exact seen

theorem lookOpen (looked : (look policy now).run.run s w = (.ok (.ok g), w')) : Open s := by
  obtain ⟨_, _, fresh, rest⟩ := Cycle.okBind.mp looked
  obtain ⟨_, _, shown, rest⟩ := Cycle.okBind.mp rest
  obtain ⟨_, _, counts, rest⟩ := Cycle.okBind.mp rest
  obtain ⟨_, _, starts, rest⟩ := Cycle.okBind.mp rest
  obtain ⟨_, _, stops, _⟩ := Cycle.okBind.mp rest
  obtain ⟨desired, actual⟩ := Cycle.snapshotOpen shown
  exact ⟨Cycle.freshOpen fresh, desired, actual, (Cycle.okRead.mp counts).1,
    (Cycle.okRead.mp starts).1, (Cycle.okRead.mp stops).1⟩

theorem lookSeen (permitted : Open s) (seen : Seen policy now w.store g) :
    (look policy now).run.run s w = (.ok (.ok g), w) := by
  obtain ⟨counts, countsRead, log⟩ := seen.log
  obtain ⟨starts, startsRead, startKeys⟩ := seen.starts
  obtain ⟨stops, stopsRead, stopKeys⟩ := seen.stops
  have first : (Cycle.read .crashCounts .crashCounts).run.run s w = (.ok (.ok counts), w) :=
    Cycle.okRead.mpr ⟨permitted.crashCounts, by rw [World.serve, countsRead]; rfl⟩
  have second : (Cycle.read .starts .starts).run.run s w = (.ok (.ok starts), w) :=
    Cycle.okRead.mpr ⟨permitted.starts, by rw [World.serve, startsRead]; rfl⟩
  have third : (Cycle.read .stops .stops).run.run s w = (.ok (.ok stops), w) :=
    Cycle.okRead.mpr ⟨permitted.stops, by rw [World.serve, stopsRead]; rfl⟩
  rw [look, Cycle.runBindOk (Cycle.freshRun permitted.freshness seen.fresh),
    Cycle.runBindOk (Cycle.showsRun permitted.desired permitted.actual seen.shows),
    Cycle.runBindOk first, Cycle.runBindOk second, Cycle.runBindOk third, ← log, ← startKeys,
    ← stopKeys]
  rfl

structure Numbers (last : Nat) (d d' : Decision) : Prop where
  starts : d'.starts = numberStarts (last + 1) d.starts
  stops : d'.stops = numberStops (last + 1 + d.starts.length) d.stops
  crashCounts : d'.crashCounts = d.crashCounts

theorem numberStartsKeys (first : Nat) (l : List Start) :
    (numberStarts first l).map Start.key = l.map Start.key := by
  induction l generalizing first with
  | nil => rfl
  | cons a l ih => simp [numberStarts, ih, Start.key]

theorem numberStopsKeys (first : Nat) (l : List Stop) :
    (numberStops first l).map Stop.key = l.map Stop.key := by
  induction l generalizing first with
  | nil => rfl
  | cons a l ih => simp [numberStops, ih, Stop.key]

theorem numberStartsLength (first : Nat) (l : List Start) :
    (numberStarts first l).length = l.length := by
  simpa using congrArg List.length (numberStartsKeys first l)

theorem numberStopsLength (first : Nat) (l : List Stop) :
    (numberStops first l).length = l.length := by
  simpa using congrArg List.length (numberStopsKeys first l)

theorem numberedAs {last : Nat} {d' : Decision} (h : d.number (last + 1) = .ok d') :
    Numbers last d d' := by
  unfold Decision.number at h
  cases sum : exactSum (last + 1) d.total with
  | error o => simp [sum, bind, Except.bind] at h
  | ok n =>
    simp only [sum, bind, Except.bind, Except.ok.injEq] at h
    subst h
    exact ⟨rfl, rfl, rfl⟩

theorem numberedEnds (d : Decision) (s : Surroundings) (w : World) :
    (∃ d', Numbers w.store.lastId d d' ∧
      (numbered d).run.run s w = (.ok (.ok d'), w.skipIds d.total)) ∨
    ∃ r n, Cycle.Fails r ∧ (numbered d).run.run s w = (r, w.skipIds n) := by
  unfold numbered
  split
  · rename_i none
    have starts : d.starts = [] := List.length_eq_zero_iff.mp (Nat.eq_zero_of_add_eq_zero none).1
    have stops : d.stops = [] := List.length_eq_zero_iff.mp (Nat.eq_zero_of_add_eq_zero none).2
    rw [none]
    refine .inl ⟨d, ⟨?_, ?_, rfl⟩, rfl⟩
    · rw [starts, numberStarts]
    · rw [stops, numberStops]
  cases reserved : w.store.reserveIds d.total with
  | error o =>
    have served : w.serve s.accepts (.reserveIds d.total) = .error o := by
      rw [World.serve, reserved]
      rfl
    obtain ⟨r, ends, run⟩ := Cycle.runWriteHalt .messageIds served
    obtain ⟨r', ends', run'⟩ := Cycle.runBindEnd run ends
    exact .inr ⟨r', 0, ends', run'⟩
  | ok made =>
    obtain rfl := Store.reservedIds reserved
    have served : w.serve s.accepts (.reserveIds d.total) =
        .ok (.ok (w.store.lastId + 1), w.skipIds d.total) := by
      rw [World.serve, reserved]
      rfl
    rcases Cycle.runWriteEither .messageIds served with ⟨_, _, run⟩ | ⟨_, run⟩
    · exact .inr ⟨.ok (.error _), 0, Cycle.failsError _, Cycle.runBindError run⟩
    · rw [Cycle.runBindOk run]
      cases numbers : d.number (w.store.lastId + 1) with
      | error o => exact .inr ⟨.error o, d.total, Cycle.failsHalt o, rfl⟩
      | ok d' => exact .inl ⟨d', numberedAs numbers, rfl⟩

def spared (s : Surroundings) (counts : List CrashCount) : List CrashCount :=
  if "delete_crash_counters" ∈ s.failing then [] else counts

theorem removeRun (counts : List CrashCount) (s : Surroundings) (w : World) :
    (remove counts).run.run s w =
      (.ok (.ok (w.store.deleteCrashCounts (spared s counts)).1),
        { w with store := (w.store.deleteCrashCounts (spared s counts)).2 }) := by
  unfold remove spared
  cases counts with
  | nil => rw [ite_self]; rfl
  | cons c rest =>
    have served : w.serve s.accepts (.deleteCrashCounts (c :: rest)) = _ := rfl
    have asked := Cycle.runAsk served
    change ((ExceptT.lift (Procedure.ask (.deleteCrashCounts (c :: rest))) >>= _ : Cycle Nat)).run.run s w = _
    by_cases refused : "delete_crash_counters" ∈ s.failing
    · rw [if_pos refused]
      refine (Cycle.runBindOk (asked.trans (if_pos refused))).trans ?_
      rfl
    · rw [if_neg refused]
      refine (Cycle.runBindOk (asked.trans (if_neg refused))).trans ?_
      rfl

def Decision.write (d : Decision) (s : Store) : Store := s.saveAnalysis d.starts d.stops d.crashCounts

inductive Ends (policy : Policy) (now : Nat) (s : Surroundings) (w : World) :
    Except Overflow (Except CycleError Report) × World → List Decision → Prop
  | short {r : Except Overflow (Except CycleError Report)} (n : Nat)
      (ends : Cycle.Fails r) : Ends policy now s w (r, w.skipIds n) []
  | refused {g : Sight} {d : Decision} (e : CycleError)
      (looked : (look policy now).run.run s w = (.ok (.ok g), w))
      (numbers : Numbers w.store.lastId (g.draft policy now) d) :
      Ends policy now s w (.ok (.error e), w.skipIds d.total) [d]
  | saved {g : Sight} {d : Decision} {n : Nat} {t : Store}
      (looked : (look policy now).run.run s w = (.ok (.ok g), w))
      (numbers : Numbers w.store.lastId (g.draft policy now) d)
      (served : "save_analysis" ∉ s.failing)
      (removed : (d.write (w.skipIds d.total).store).deleteCrashCounts
        (spared s (outlived g.log now d.crashCounts)) = (n, t)) :
      Ends policy now s w (.ok (.ok (g.report policy now d n)), { w with store := t }) [d]

theorem decisionsAppend (a b : List Call) : decisions (a ++ b) = decisions a ++ decisions b :=
  List.filterMap_append

theorem decisionsNone {α : Type} {p : Procedure α} (only : p.Only fun c => c.decision? = none) :
    decisions (p.calls s w) = [] :=
  List.filterMap_eq_nil_iff.mpr (Procedure.onlyCalls only w)

theorem lookOnly : (look policy now).run.Only fun c => c.decision? = none := by
  refine Cycle.onlyBind (Cycle.onlyFresh rfl) fun _ => ?_
  refine Cycle.onlyBind (Cycle.onlySnapshot rfl rfl) fun _ => ?_
  refine Cycle.onlyBind (Cycle.onlyRead rfl) fun _ => ?_
  refine Cycle.onlyBind (Cycle.onlyRead rfl) fun _ => ?_
  exact Cycle.onlyBind (Cycle.onlyRead rfl) fun _ => Cycle.onlyPure _

theorem numberedOnly (d : Decision) : (numbered d).run.Only fun c => c.decision? = none := by
  unfold numbered
  split
  · exact Cycle.onlyPure _
  · refine Cycle.onlyBind (Cycle.onlyWrite rfl) fun first => ?_
    split
    · exact Cycle.onlyPure _
    · trivial

theorem removeOnly (counts : List CrashCount) : (remove counts).run.Only fun c => c.decision? = none := by
  unfold remove
  split
  · exact Cycle.onlyPure _
  · refine Cycle.onlyBind (Cycle.onlyAsk rfl) fun answer => ?_
    cases answer <;> exact Cycle.onlyPure _

theorem numbersTotal {last : Nat} {d' : Decision} (numbers : Numbers last d d') : d'.total = d.total := by
  rw [Decision.total, numbers.starts, numbers.stops, numberStartsLength, numberStopsLength, Decision.total]

theorem cycleEnds (policy : Policy) (now : Nat) (s : Surroundings) (w : World) :
    Ends policy now s w ((cycle policy now).run.run s w)
      (decisions ((cycle policy now).run.calls s w)) := by
  rcases lookLooks policy now s w with ⟨g, seen, looked⟩ | ⟨e, looked⟩
  case inr =>
    rw [cycle, Cycle.runBindError looked, Cycle.callsBindEnd looked (Cycle.failsError e),
      decisionsNone lookOnly]
    exact .short 0 (Cycle.failsError e)
  rw [cycle, Cycle.runBindOk looked, Cycle.callsBindOk looked, decisionsAppend,
    decisionsNone lookOnly, List.nil_append]
  rcases numberedEnds (g.draft policy now) s w with ⟨d, numbers, numbered⟩ | ⟨r, n, ends, numbered⟩
  case inr =>
    obtain ⟨r', ends', run⟩ := Cycle.runBindEnd numbered ends
    rw [run, Cycle.callsBindEnd numbered ends, decisionsNone (numberedOnly _)]
    exact .short n ends'
  rw [← numbersTotal numbers] at numbered
  rw [Cycle.runBindOk numbered, Cycle.callsBindOk numbered, decisionsAppend,
    decisionsNone (numberedOnly _), List.nil_append]
  have saves : (w.skipIds d.total).serve s.accepts (.saveAnalysis d.starts d.stops d.crashCounts) =
      .ok (.ok (), { w with store := d.write (w.skipIds d.total).store }) := rfl
  rcases Cycle.runWriteEither .analysis saves with ⟨e, _, run⟩ | ⟨served, run⟩
  · rw [Cycle.runBindError run, Cycle.callsBindEnd run (Cycle.failsError _),
      Cycle.callsWrite]
    exact .refused _ looked numbers
  · have removed := removeRun (outlived g.log now d.crashCounts) s
      { w with store := d.write (w.skipIds d.total).store }
    rw [Cycle.runBindOk run, Cycle.callsBindOk run, Cycle.callsWrite, Cycle.runBindOk removed,
      Cycle.callsBindOk removed, decisionsAppend, decisionsAppend, decisionsNone (removeOnly _)]
    exact .saved looked numbers served rfl

structure Concludes (policy : Policy) (now : Nat) (failing : List String) (s s' : Store) (r : Report)
    (g : Sight) (d : Decision) : Prop where
  seen : Seen policy now s g
  numbers : Numbers s.lastId (g.draft policy now) d
  report : ∃ n, r = g.report policy now d n
  store : s' = ((d.write { s with lastId := s.lastId + d.total }).deleteCrashCounts
    (spared { failing } (outlived g.log now d.crashCounts))).2

theorem analyzeConcludes {failing : List String} {w w' : World} {r : Report}
    (ended : analyze policy now { failing } w = (.ok (.ok r), w')) :
    ∃ g d, Concludes policy now failing w.store w'.store r g d := by
  have ends := cycleEnds policy now { failing } w
  change (cycle policy now).run.run { failing } w = _ at ended
  rw [ended] at ends
  generalize decisions _ = asked at ends
  cases ends with
  | short n ends => exact absurd rfl (ends r)
  | saved looked numbers served removed =>
    exact ⟨_, _, lookedSeen looked, numbers, ⟨_, rfl⟩, (congrArg Prod.snd removed).symm⟩

end Analysis
end Fleet
