import Fleet.Proofs.Analyses
import Fleet.Proofs.Histories
import Fleet.Proofs.Priorities

/-! An analysis that is made again at once changes nothing. The keys of what it proposes
do not depend on the crash counts, so all of them are pending; and the counts that the
first one raised have not outlived their time, while the others that have are gone. -/
namespace Fleet

structure Store.Filed (s : Store) : Prop where
  starts : Rows.Own Start.key s.starts
  stops : Rows.Own Stop.key s.stops
  crashCounts : Rows.Own CrashCount.key s.crashCounts

namespace Store

theorem deedCounts {policy : Policy} {s : Store} (own : Rows.Own CrashCount.key s.crashCounts)
    (deed : Deed) : Rows.Own CrashCount.key (deed.apply policy s).crashCounts := by
  cases deed with
  | sync specs now => exact own
  | flush batch =>
    rw [Deed.apply, Intake.flushStore]
    split <;> exact own
  | reap now =>
    simp only [Deed.apply, reap]
    cases s.actual.scan <;> exact own
  | analysis now failing => exact (Procedure.runActs _ { failing } ⟨s, []⟩).filed own
  | dispatch now failing accepts => exact (Procedure.runActs _ { failing, accepts } ⟨s, []⟩).filed own

theorem afterFiled (policy : Policy) (ttl : Span) (deeds : List Deed) :
    (after policy ttl deeds).Filed := by
  have regular := afterRegular policy ttl deeds
  refine ⟨regular.starts, regular.stops, ?_⟩
  exact List.foldlRecOn (motive := fun s : Store => Rows.Own CrashCount.key s.crashCounts) deeds _
    Rows.ownEmpty fun _ own deed _ => deedCounts own deed

end Store

theorem Table.getInserted {β : Type} {l : List (String × β)} (distinct : (l.map Prod.fst).Nodup)
    (t : Table String β) {k : String} {v : β} :
    (l.foldl (fun t e => t.insert e.1 e.2) t).get? k = some v ↔
      (k, v) ∈ l ∨ k ∉ l.map Prod.fst ∧ t.get? k = some v := by
  induction l generalizing t with
  | nil => simp
  | cons e l ih =>
    obtain ⟨apart, distinct⟩ := List.nodup_cons.mp distinct
    have later : (k, v) ∈ l → k ≠ e.1 := by
      rintro member rfl
      exact apart (List.mem_map.mpr ⟨_, member, rfl⟩)
    rw [List.foldl_cons, ih distinct, Table.getInsert]
    by_cases here : k = e.1
    · subst here
      have other : (e.1, v) ∉ l := fun member => later member rfl
      simp [apart, other, Prod.ext_iff, eq_comm]
    · simp [here, Prod.ext_iff]

namespace CrashLog

theorem getCount {counts : List CrashCount} (distinct : (counts.map CrashCount.key).Nodup)
    {ttl : Span} {k : String} {c : CrashCount} :
    (ofList counts ttl).counts.get? k = some c ↔ c ∈ counts ∧ c.key = k := by
  have keys : ((counts.map fun c => (c.key, c)).map Prod.fst).Nodup := by
    rwa [List.map_map]
  refine (Table.getInserted keys .empty).trans ?_
  simp only [Table.getEmpty, reduceCtorEq, and_false, or_false, List.mem_map, Prod.mk.injEq]
  constructor
  · rintro ⟨c, member, named, rfl⟩
    exact ⟨member, named⟩
  · rintro ⟨member, named⟩
    exact ⟨c, member, named, rfl⟩

theorem memExpired {counts : List CrashCount} (distinct : (counts.map CrashCount.key).Nodup)
    {ttl : Span} {now : Nat} {c : CrashCount} :
    c ∈ (ofList counts ttl).expired now ↔ c ∈ counts ∧ c.isCurrent ttl.secs now = false := by
  have held : c ∈ (ofList counts ttl).counts.values ↔ c ∈ counts := by
    simp only [Table.values, List.mem_map]
    constructor
    · rintro ⟨e, member, rfl⟩
      exact ((getCount distinct).mp (Table.getSome _ |>.mpr member)).1
    · intro member
      exact ⟨(c.key, c), Table.getSome _ |>.mp ((getCount distinct).mpr ⟨member, rfl⟩), rfl⟩
  simp only [expired, List.mem_filter, held, Bool.not_eq_true']
  rfl

theorem countCurrent {log : CrashLog} (lasts : 0 < log.ttl) (app : App) (index now : Nat) :
    (log.count app index now).isCurrent log.ttl now = true := by
  unfold count
  split
  · rename_i c found
    exact (Option.filter_eq_some_iff.mp found).2
  · simpa [CrashCount.isCurrent] using lasts

end CrashLog

namespace Proposal
variable {policy : Policy} {now : Nat} {v : View}

theorem startForKey (log log' : CrashLog) (i : Nat) :
    (startFor policy log now v i).map Start.key = (startFor policy log' now v i).map Start.key := by
  unfold startFor
  cases v.need i <;> rfl

theorem startKeys (log log' : CrashLog) :
    (ofView policy log now v).starts.map Start.key = (ofView policy log' now v).starts.map Start.key := by
  unfold ofView
  split
  · rfl
  · simp only [List.map_filterMap, startForKey log log']

theorem stopsAlike (log log' : CrashLog) :
    (ofView policy log now v).stops = (ofView policy log' now v).stops := by
  have keys : (ofView policy log now v).starts.map Start.key =
      (ofView policy log' now v).starts.map Start.key := startKeys log log'
  unfold ofView at keys ⊢
  split
  · rfl
  · rename_i calm
    simp only [if_neg calm] at keys
    have none := congrArg List.isEmpty keys
    rw [List.isEmpty_map, List.isEmpty_map] at none
    simp only [none]

theorem crashCurrent {log : CrashLog} (lasts : 0 < log.ttl) {c : CrashCount}
    (member : c ∈ (ofView policy log now v).crashCounts) : c.isCurrent log.ttl now = true := by
  unfold ofView at member
  split at member
  · cases member
  · obtain ⟨i, _, raised⟩ := List.mem_filterMap.mp member
    unfold crashFor at raised
    split at raised
    · cases raised
      exact CrashLog.countCurrent lasts v.app i now
    · cases raised

end Proposal

namespace Analysis
variable {policy : Policy} {now : Nat} {g : Sight} {d : Decision}

theorem proposedKeys (policy : Policy) (now : Nat) (log log' : CrashLog) (v : Snapshot) :
    ((proposals policy log now v).flatMap Proposal.starts).map Start.key =
      ((proposals policy log' now v).flatMap Proposal.starts).map Start.key := by
  simp only [proposals, List.flatMap_map, List.map_flatMap, Proposal.startKeys log log']

theorem proposedStops (policy : Policy) (now : Nat) (log log' : CrashLog) (v : Snapshot) :
    (proposals policy log now v).flatMap Proposal.stops =
      (proposals policy log' now v).flatMap Proposal.stops := by
  simp only [proposals, List.flatMap_map, Proposal.stopsAlike log log']

theorem decidedStarts (starts stops : List String) (ps : List Proposal) :
    (decide starts stops ps).starts = (ps.flatMap Proposal.starts).filter (·.key ∉ starts) :=
  List.filter_flatMap.symm

theorem decidedStops (starts stops : List String) (ps : List Proposal) :
    (decide starts stops ps).stops = (ps.flatMap Proposal.stops).filter (·.key ∉ stops) :=
  List.filter_flatMap.symm

theorem memNewCounts {pending : List String} {p : Proposal} {c : CrashCount}
    (member : c ∈ newCounts pending p) : c ∈ p.crashCounts := by
  obtain ⟨s, _, raised⟩ := List.mem_filterMap.mp member
  split at raised
  · exact List.mem_of_find?_eq_some raised
  · cases raised

theorem decideNothing {starts stops : List String} {ps : List Proposal}
    (started : ∀ s ∈ ps.flatMap Proposal.starts, s.key ∈ starts)
    (stopped : ∀ s ∈ ps.flatMap Proposal.stops, s.key ∈ stops) :
    decide starts stops ps = ⟨[], [], []⟩ := by
  have noStart : ps.flatMap (newStarts starts) = [] := by
    refine (decidedStarts starts stops ps).trans (List.filter_eq_nil_iff.mpr fun s member => ?_)
    simpa using started s member
  have noStop : ps.flatMap (newStops stops) = [] := by
    refine (decidedStops starts stops ps).trans (List.filter_eq_nil_iff.mpr fun s member => ?_)
    simpa using stopped s member
  have noCount : ps.flatMap (newCounts starts) = [] := by
    refine List.flatMap_eq_nil_iff.mpr fun p member => ?_
    rw [newCounts, List.flatMap_eq_nil_iff.mp noStart p member, List.filterMap_nil]
  rw [decide, noStart, noStop, noCount]

theorem numberedSettles {last : Nat} (numbers : Numbers last (g.draft policy now) d) :
    ∀ s ∈ d.starts, ∃ a, Record.settle s = some a := by
  intro s member
  rw [numbers.starts] at member
  obtain ⟨r, drafted, id, rfl⟩ := Queue.memNumberStarts member
  obtain ⟨p, proposed, new⟩ := List.mem_flatMap.mp drafted
  obtain ⟨v, _, rfl⟩ := List.mem_map.mp proposed
  obtain ⟨i, _, opens⟩ := Proposal.memStarts (List.mem_of_mem_filter new)
  obtain ⟨q, reread⟩ := v.unsatisfiedReread
  rw [Start.settle, opens.priority, reread]
  exact ⟨_, rfl⟩

theorem seenAgain {s t : Store} (seen : Seen policy now s g) {last : Nat}
    (numbers : Numbers last (g.draft policy now) d) {total : Nat} {gone : List CrashCount}
    (saved : t = ((d.write { s with lastId := total }).deleteCrashCounts gone).2) :
    ∃ g', Seen policy now t g' := by
  subst saved
  obtain ⟨counts, countsRead, log⟩ := seen.log
  obtain ⟨starts, startsRead, startKeys⟩ := seen.starts
  obtain ⟨stops, stopsRead, stopKeys⟩ := seen.stops
  obtain ⟨counts', countsRead'⟩ := Rows.readableScan (Rows.readableRemove
    (Rows.readablePut (Rows.scanReadable countsRead) fun c _ => ⟨c, CrashCount.settle c⟩)
    (gone.map CrashCount.key))
  obtain ⟨starts', startsRead'⟩ := Rows.readableScan
    (Rows.readablePut (Rows.scanReadable startsRead) (numberedSettles numbers))
  obtain ⟨stops', stopsRead'⟩ := Rows.readableScan
    (Rows.readablePut (Rows.scanReadable stopsRead) fun c _ => ⟨c, Stop.settle c⟩)
  exact ⟨⟨g.snapshot, .ofList counts' policy.backoff.counterTtl, starts'.map Start.key,
    stops'.map Stop.key⟩, ⟨seen.fresh, seen.shows, ⟨counts', countsRead', rfl⟩,
      ⟨starts', startsRead', rfl⟩, ⟨stops', stopsRead', rfl⟩⟩⟩

section
variable {s t : Store} {g' : Sight} {last total : Nat} {gone : List CrashCount}
  (filed : s.Filed) (seen : Seen policy now s g) (numbers : Numbers last (g.draft policy now) d)
  (saved : t = ((d.write { s with lastId := total }).deleteCrashCounts gone).2)
  (again : Seen policy now t g')
include seen saved again

theorem snapshotAgain : g'.snapshot = g.snapshot := by
  subst saved
  exact Cycle.showsUnique again.shows seen.shows

include filed

theorem startsPending (k : String) : k ∈ g'.starts ↔ k ∈ d.starts.map Start.key ∨ k ∈ g.starts := by
  obtain ⟨starts, read, keys⟩ := seen.starts
  obtain ⟨starts', read', keys'⟩ := again.starts
  subst saved
  rw [keys, keys', Rows.ownScan filed.starts read,
    Rows.ownScan (Rows.ownPut Start.settleKey filed.starts _) read', Rows.memKeysPut]

theorem stopsPending (k : String) : k ∈ g'.stops ↔ k ∈ d.stops.map Stop.key ∨ k ∈ g.stops := by
  obtain ⟨stops, read, keys⟩ := seen.stops
  obtain ⟨stops', read', keys'⟩ := again.stops
  subst saved
  rw [keys, keys', Rows.ownScan filed.stops read,
    Rows.ownScan (Rows.ownPut Stop.settleKey filed.stops _) read', Rows.memKeysPut]

include numbers

theorem draftNothing : g'.draft policy now = ⟨[], [], []⟩ := by
  have same : g'.snapshot = g.snapshot := snapshotAgain seen saved again
  -- What is proposed has the keys of before: each was pending then or is pending by now.
  refine decideNothing (fun a member => ?_) fun a member => ?_
  · rw [Sight.proposals, same] at member
    have key := List.mem_map_of_mem (f := Start.key) member
    rw [proposedKeys policy now g'.log g.log] at key
    obtain ⟨b, proposed, named⟩ := List.mem_map.mp key
    rw [← named, startsPending filed seen saved again, numbers.starts, numberStartsKeys]
    by_cases old : b.key ∈ g.starts
    · exact .inr old
    · refine .inl (List.mem_map_of_mem ?_)
      rw [Sight.draft, decidedStarts]
      exact List.mem_filter.mpr ⟨proposed, by simpa using old⟩
  · rw [Sight.proposals, same, proposedStops policy now g'.log g.log] at member
    rw [stopsPending filed seen saved again, numbers.stops, numberStopsKeys]
    by_cases old : a.key ∈ g.stops
    · exact .inr old
    · refine .inl (List.mem_map_of_mem ?_)
      rw [Sight.draft, decidedStops]
      exact List.mem_filter.mpr ⟨member, by simpa using old⟩

theorem expiredNothing (lasts : 0 < policy.backoff.counterTtl.secs)
    (removes : gone = outlived g.log now d.crashCounts) : g'.log.expired now = [] := by
  obtain ⟨counts, read, log⟩ := seen.log
  obtain ⟨counts', read', log'⟩ := again.log
  subst saved
  have own := Rows.ownPut CrashCount.settleKey filed.crashCounts d.crashCounts
  have owned := Rows.ownRemove own (gone.map CrashCount.key)
  refine List.eq_nil_iff_forall_not_mem.mpr fun c member => ?_
  rw [log', CrashLog.memExpired (Rows.ownScanDistinct owned read')] at member
  obtain ⟨there, old⟩ := member
  obtain ⟨row, found, reads⟩ := Rows.ownFound owned read' there
  rw [Rows.getRemove] at found
  split at found
  · cases found
  rename_i stays
  by_cases written : ∃ r ∈ d.crashCounts, r.key = c.key
  · obtain ⟨r, raised, _, held⟩ := Rows.getPutSome (t := s.crashCounts) written
    rw [held] at found
    cases found
    rw [Rows.readHeld, CrashCount.settle] at reads
    cases reads
    rw [numbers.crashCounts] at raised
    obtain ⟨p, proposed, new⟩ := List.mem_flatMap.mp raised
    obtain ⟨v, _, rfl⟩ := List.mem_map.mp proposed
    have current := Proposal.crashCurrent (by rwa [log]) (memNewCounts new)
    rw [log] at current
    exact absurd (current.symm.trans old) (by decide)
  · rw [Rows.getPutOther fun r member same => written ⟨r, member, same⟩] at found
    refine stays (List.mem_map_of_mem ?_)
    rw [removes, log]
    refine List.mem_filter.mpr ⟨?_, by simpa using written⟩
    rw [CrashLog.memExpired (Rows.ownScanDistinct filed.crashCounts read)]
    exact ⟨(Rows.memScan read).mpr ⟨_, row, found, reads⟩, old⟩

end

theorem cycleIdle {s : Surroundings} {w : World}
    (looked : (look policy now).run.run s w = (.ok (.ok g), w))
    (nothing : g.draft policy now = ⟨[], [], []⟩) (served : "save_analysis" ∉ s.failing)
    (kept : spared s (outlived g.log now []) = []) :
    (cycle policy now).run.run s w = (.ok (.ok (g.report policy now ⟨[], [], []⟩ 0)), w) := by
  have saves : w.serve s.accepts (.saveAnalysis [] [] []) = .ok (.ok (), w) := rfl
  have numbers : (numbered ⟨[], [], []⟩).run.run s w = (.ok (.ok ⟨[], [], []⟩), w) := rfl
  have removes := removeRun (outlived g.log now []) s w
  rw [kept] at removes
  rcases Cycle.runWriteEither .analysis saves with ⟨_, refused, _⟩ | ⟨_, saved⟩
  · exact absurd refused served
  · rw [cycle, Cycle.runBindOk looked, nothing, Cycle.runBindOk numbers, Cycle.runBindOk saved,
      Cycle.runBindOk removes]
    rfl

def Report.again (r : Report) : Report := { r with
  startsEnqueued := 0
  stopsEnqueued := 0
  startsDeduplicated := r.startsEnqueued + r.startsDeduplicated
  stopsDeduplicated := r.stopsEnqueued + r.stopsDeduplicated
  crashCountsUpdated := 0
  crashCountsReaped := 0 }

theorem startsDivided (g : Sight) (policy : Policy) (now : Nat) :
    (g.draft policy now).starts.length + ((g.proposals policy now).flatMap (knownStarts g.starts)).length =
      ((g.proposals policy now).flatMap Proposal.starts).length := by
  have known : (g.proposals policy now).flatMap (knownStarts g.starts) =
      ((g.proposals policy now).flatMap Proposal.starts).filter (·.key ∈ g.starts) :=
    List.filter_flatMap.symm
  rw [Sight.draft, decidedStarts, known, ← List.countP_eq_length_filter, ← List.countP_eq_length_filter,
    List.length_eq_countP_add_countP fun a : Start => a.key ∈ g.starts, Nat.add_comm]
  simp

theorem stopsDivided (g : Sight) (policy : Policy) (now : Nat) :
    (g.draft policy now).stops.length + ((g.proposals policy now).flatMap (knownStops g.stops)).length =
      ((g.proposals policy now).flatMap Proposal.stops).length := by
  have known : (g.proposals policy now).flatMap (knownStops g.stops) =
      ((g.proposals policy now).flatMap Proposal.stops).filter (·.key ∈ g.stops) :=
    List.filter_flatMap.symm
  rw [Sight.draft, decidedStops, known, ← List.countP_eq_length_filter, ← List.countP_eq_length_filter,
    List.length_eq_countP_add_countP fun a : Stop => a.key ∈ g.stops, Nat.add_comm]
  simp

theorem reportDivided {last : Nat} (numbers : Numbers last (g.draft policy now) d) (reaped : Nat) :
    (g.report policy now d reaped).startsEnqueued + (g.report policy now d reaped).startsDeduplicated =
      ((g.proposals policy now).flatMap Proposal.starts).length ∧
    (g.report policy now d reaped).stopsEnqueued + (g.report policy now d reaped).stopsDeduplicated =
      ((g.proposals policy now).flatMap Proposal.stops).length := by
  have starts := startsDivided g policy now
  have stops := stopsDivided g policy now
  rw [← numberStartsLength (last + 1) (g.draft policy now).starts, ← numbers.starts] at starts
  rw [← numberStopsLength, ← numbers.stops] at stops
  exact ⟨starts, stops⟩

theorem reportAgain {g' : Sight} (same : g'.snapshot = g.snapshot) {last : Nat}
    (numbers : Numbers last (g.draft policy now) d) (reaped : Nat)
    (nothing : g'.draft policy now = ⟨[], [], []⟩) :
    g'.report policy now ⟨[], [], []⟩ 0 = (g.report policy now d reaped).again := by
  have starts := congrArg List.length (proposedKeys policy now g'.log g.log g.snapshot)
  have stops := congrArg List.length (proposedStops policy now g'.log g.log g.snapshot)
  obtain ⟨startsBefore, stopsBefore⟩ := reportDivided numbers reaped
  -- Nothing is left to enqueue, so all that is proposed again is known.
  have startsKnown := startsDivided g' policy now
  have stopsKnown := stopsDivided g' policy now
  rw [List.length_map, List.length_map] at starts
  rw [nothing, List.length_nil] at startsKnown stopsKnown
  simp only [Sight.report, Report.again, Sight.proposals, same, List.length_nil] at *
  congr 1 <;> omega

theorem analyzeAgain {failing : List String} {w w' : World} {r : Report} (filed : w.store.Filed)
    (lasts : 1 ≤ policy.backoff.counterTtl.secs)
    (first : analyze policy now { failing } w = (.ok (.ok r), w')) :
    analyze policy now { failing } w' = (.ok (.ok r.again), w') := by
  have ends := cycleEnds policy now { failing } w
  change (cycle policy now).run.run { failing } w = _ at first
  change (cycle policy now).run.run { failing } w' = _
  rw [first] at ends
  generalize decisions _ = asked at ends
  cases ends with
  | short n ends => exact absurd rfl (ends r)
  | @saved g d n t looked numbers served removed =>
    have seen := lookedSeen looked
    have saved := congrArg Prod.snd removed
    obtain ⟨g', again⟩ := seenAgain seen numbers saved.symm
    have kept : spared { failing } (outlived g'.log now []) = [] := by
      unfold spared at saved ⊢
      split
      · rfl
      · rename_i reaps
        rw [if_neg reaps] at saved
        rw [outlived, expiredNothing filed seen numbers saved.symm again lasts rfl, List.filter_nil]
    have nothing := draftNothing filed seen numbers saved.symm again
    rw [cycleIdle (lookSeen (w := { w with store := t }) (lookOpen looked) again) nothing served kept,
      reportAgain (snapshotAgain seen saved.symm again) numbers n nothing]

def relapsed : Store :=
  let web : App := ⟨"web", "v1"⟩
  let api : App := ⟨"api", "v1"⟩
  .after {} (.ofSecs 30) [
    .sync [⟨web, 2, .started, .staged, 0⟩] 1000,
    .flush ⟨[⟨web, 0, "a", .crashed, 1000⟩], 1000⟩,
    .analysis 1000 [],
    .sync [⟨web, 3, .started, .staged, 0⟩, ⟨api, 1, .started, .staged, 0⟩] 3000,
    .flush ⟨[⟨web, 0, "b", .running, 3000⟩, ⟨web, 1, "c", .crashed, 3000⟩,
      ⟨api, 0, "d", .crashed, 3000⟩], 3000⟩]

theorem relapsedAgain : ∃ w',
    analyze {} 3000 {} ⟨relapsed, []⟩ = (.ok (.ok ⟨2, 0, 2, 0, 1, 0, 1, 1⟩), w') ∧
      analyze {} 3000 {} w' = (.ok (.ok ⟨2, 0, 0, 0, 3, 0, 0, 0⟩), w') := by
  have reported : (analyze {} 3000 {} ⟨relapsed, []⟩).1 = .ok (.ok ⟨2, 0, 2, 0, 1, 0, 1, 1⟩) := by
    decide +kernel
  have first : analyze {} 3000 {} ⟨relapsed, []⟩ = (.ok (.ok ⟨2, 0, 2, 0, 1, 0, 1, 1⟩), _) :=
    Prod.ext reported rfl
  exact ⟨_, first, analyzeAgain (Store.afterFiled _ _ _) (by decide) first⟩

end Analysis

end Fleet
