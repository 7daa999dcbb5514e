import Fleet.Proofs.Enqueues

/-! What an analysis makes of every crash count. The count of an index rises where a
restart of it is enqueued, once for each, and starts anew where it has outlived its time;
no other count is written, and of these the ones that have outlived their time go. -/
namespace Fleet

def Store.current? (s : Store) (ttl now : Nat) (k : String) : Option CrashCount :=
  (s.crashCounts.record? k).filter (·.isCurrent ttl now)

def Store.raised (s : Store) (ttl now : Nat) (app : App) (index : Nat) : CrashCount :=
  match s.current? ttl now (app.indexKey index) with
  | some c => ⟨c.app, c.index, min (c.count + 1) Bounds.count, c.createdAt⟩
  | none => ⟨app, index, 1, now⟩

namespace Analysis
variable {policy : Policy} {now : Nat} {failing : List String} {s s' : Store} {r : Report}
  {g : Sight} {d : Decision}

theorem logRecord (keyed : s.Keyed) (seen : Seen policy now s g) (k : String) :
    g.log.counts.get? k = s.crashCounts.record? k := by
  obtain ⟨counts, read, log⟩ := seen.log
  refine Option.ext fun c => ?_
  rw [log, CrashLog.getCount (Rows.ownScanDistinct keyed.crashCounts read),
    Rows.recordScan CrashCount.settle keyed.crashCounts read]

theorem logCount (keyed : s.Keyed) (seen : Seen policy now s g) (app : App) (index : Nat) :
    (g.log.count app index now).increment = s.raised policy.backoff.counterTtl.secs now app index := by
  have ttl : g.log.ttl = policy.backoff.counterTtl.secs := by
    obtain ⟨_, _, log⟩ := seen.log
    rw [log]
    rfl
  rw [CrashLog.count, logRecord keyed seen, Store.raised, Store.current?, ttl]
  generalize Option.filter _ _ = current
  cases current <;> rfl

theorem raisedKey (keyed : s.Keyed) (ttl now : Nat) (app : App) (index : Nat) :
    (s.raised ttl now app index).key = app.indexKey index := by
  unfold Store.raised
  cases current : s.current? ttl now (app.indexKey index) with
  | none => rfl
  | some c =>
    obtain ⟨row, found, record⟩ := Option.bind_eq_some_iff.mp (Option.filter_eq_some_iff.mp current).1
    exact keyed.crashCounts _ row c found ((Row.readSettled CrashCount.settle).mpr record)

theorem logIndexed (keyed : s.Keyed) (seen : Seen policy now s g) (app : App) (i : Nat) :
    (g.log.count app i now).index = i := by
  have key := raisedKey keyed policy.backoff.counterTtl.secs now app i
  rw [← logCount keyed seen] at key
  exact (App.indexKeySame key).2

end Analysis

namespace Proposal
variable {policy : Policy} {log : CrashLog} {now : Nat} {v : View} {a : Start}

theorem restartNeeded (member : a ∈ (ofView policy log now v).starts) (restarts : a.reason = .crashed) :
    a.app = v.app ∧ a.index < v.target ∧ v.need a.index = .crashed := by
  obtain ⟨i, inside, proposed⟩ := startsProposed member
  rcases startForCases proposed with ⟨_, rfl⟩ | ⟨need, rfl⟩ | ⟨_, rfl⟩
  · cases restarts
  · exact ⟨rfl, inside, need⟩
  · cases restarts

theorem countFound (indexed : ∀ i, (log.count v.app i now).index = i)
    (member : a ∈ (ofView policy log now v).starts) (restarts : a.reason = .crashed) :
    (ofView policy log now v).crashCounts.find? (·.index = a.index) =
      some (log.count a.app a.index now).increment := by
  obtain ⟨app, inside, crashed⟩ := restartNeeded member restarts
  have calm : v.isStaging = false := by
    cases staging : v.isStaging with
    | false => rfl
    | true => simp [ofView, staging, nothing] at member
  have counts : (ofView policy log now v).crashCounts =
      (List.range v.target).filterMap (crashFor log now v) := by
    simp [ofView, calm]
  rw [counts, app]
  cases found : ((List.range v.target).filterMap (crashFor log now v)).find? (·.index = a.index) with
  | none =>
    have listed : (log.count v.app a.index now).increment ∈
        (List.range v.target).filterMap (crashFor log now v) :=
      List.mem_filterMap.mpr ⟨a.index, List.mem_range.mpr inside, if_pos crashed⟩
    have none := List.find?_eq_none.mp found _ listed
    exact absurd (decide_eq_true (indexed a.index)) none
  | some c =>
    obtain ⟨j, _, raised⟩ := List.mem_filterMap.mp (List.mem_of_find?_eq_some found)
    unfold crashFor at raised
    split at raised
    · cases raised
      have chosen := List.find?_some found
      have index : (log.count v.app j now).index = a.index := of_decide_eq_true chosen
      rw [indexed j] at index
      rw [index]
    · cases raised

end Proposal

namespace Analysis
variable {policy : Policy} {now : Nat} {failing : List String} {s s' : Store} {r : Report}
  {g : Sight} {d : Decision}

theorem draftedCounts (keyed : s.Keyed) (seen : Seen policy now s g) {c : CrashCount} :
    c ∈ (g.draft policy now).crashCounts ↔ ∃ a ∈ (g.draft policy now).starts, a.reason = .crashed ∧
      c = s.raised policy.backoff.counterTtl.secs now a.app a.index := by
  simp only [Sight.draft, decide, List.mem_flatMap, newCounts, List.mem_filterMap]
  constructor
  · rintro ⟨p, proposed, a, new, raised⟩
    obtain ⟨v, _, rfl⟩ := List.mem_map.mp proposed
    split at raised
    · rename_i restarts
      rw [Proposal.countFound (logIndexed keyed seen v.app) (List.mem_of_mem_filter new) restarts,
        logCount keyed seen] at raised
      cases raised
      exact ⟨a, ⟨_, proposed, new⟩, restarts, rfl⟩
    · cases raised
  · rintro ⟨a, ⟨p, proposed, new⟩, restarts, rfl⟩
    obtain ⟨v, _, rfl⟩ := List.mem_map.mp proposed
    refine ⟨_, proposed, a, new, ?_⟩
    rw [if_pos restarts, Proposal.countFound (logIndexed keyed seen v.app)
      (List.mem_of_mem_filter new) restarts, logCount keyed seen]

def Restarts (s s' : Store) (k : String) (a : Start) : Prop :=
  s.starts.get? k = none ∧ s'.starts.get? k = some (.held a) ∧ a.reason = .crashed

section
variable (keyed : s.Keyed) (done : Concludes policy now failing s s' r g d)
include keyed done

theorem restartsDecided {k : String} {a : Start} :
    Restarts s s' k a ↔ a ∈ d.starts ∧ a.key = k ∧ a.reason = .crashed := by
  have gains := startsGained keyed done
  constructor
  · rintro ⟨free, found, restarts⟩
    rcases (gains.held k _).mp found with old | ⟨b, there, named, same⟩
    · rw [free] at old
      cases old
    · cases same
      exact ⟨there, named, restarts⟩
  · rintro ⟨there, rfl, restarts⟩
    exact ⟨gains.free a there, (gains.held _ _).mpr (.inr ⟨a, there, rfl, rfl⟩), restarts⟩

theorem decidedCounts {c : CrashCount} :
    c ∈ d.crashCounts ↔ ∃ a ∈ d.starts, a.reason = .crashed ∧
      c = s.raised policy.backoff.counterTtl.secs now a.app a.index := by
  -- What a start says of its count is not changed by its number.
  have each : ∀ l : List Start, (∃ a ∈ l, a.reason = .crashed ∧
      c = s.raised policy.backoff.counterTtl.secs now a.app a.index) ↔
      ∃ a ∈ l.map Start.unnumbered, a.reason = .crashed ∧
        c = s.raised policy.backoff.counterTtl.secs now a.app a.index := by
    intro l
    simp only [List.mem_map, exists_exists_and_eq_and, Start.unnumbered]
  rw [done.numbers.crashCounts, draftedCounts keyed done.seen, each, each d.starts,
    done.numbers.starts, numberStartsRest]

theorem renewedKeys {k : String} :
    k ∈ d.crashCounts.map CrashCount.key ↔ ∃ a, Restarts s s' k a := by
  simp only [List.mem_map, decidedCounts keyed done, restartsDecided keyed done]
  constructor
  · rintro ⟨_, ⟨a, there, restarts, rfl⟩, rfl⟩
    exact ⟨a, there, (raisedKey keyed _ now a.app a.index).symm, restarts⟩
  · rintro ⟨a, there, rfl, restarts⟩
    exact ⟨_, ⟨a, there, restarts, rfl⟩, raisedKey keyed _ now a.app a.index⟩

theorem outlivedKeys {k : String} :
    k ∈ (outlived g.log now d.crashCounts).map CrashCount.key ↔
      (∃ c, s.crashCounts.record? k = some c ∧
        c.isCurrent policy.backoff.counterTtl.secs now = false) ∧ ¬ ∃ a, Restarts s s' k a := by
  obtain ⟨counts, read, log⟩ := done.seen.log
  rw [← renewedKeys keyed done]
  simp only [outlived, log, List.mem_map, List.mem_filter,
    CrashLog.memExpired (Rows.ownScanDistinct keyed.crashCounts read),
    Rows.recordScan CrashCount.settle keyed.crashCounts read]
  constructor
  · rintro ⟨c, ⟨⟨member, old⟩, kept⟩, rfl⟩
    exact ⟨⟨c, ⟨member, rfl⟩, old⟩, by simpa using kept⟩
  · rintro ⟨⟨c, ⟨member, rfl⟩, old⟩, kept⟩
    exact ⟨c, ⟨⟨member, old⟩, by simpa using kept⟩, rfl⟩

structure Counts (ttl now : Nat) (failing : List String) (s s' : Store) (k : String) : Prop where
  restarted : ∀ a, Restarts s s' k a →
    s'.crashCounts.get? k = some (.held (s.raised ttl now a.app a.index))
  otherwise : (¬ ∃ a, Restarts s s' k a) → s'.crashCounts.get? k =
    if (s.current? ttl now k).isSome ∨ "delete_crash_counters" ∈ failing then s.crashCounts.get? k
    else none

theorem countWritten {k : String} {a : Start} (restarts : Restarts s s' k a) :
    (Rows.put CrashCount.key s.crashCounts d.crashCounts).get? k =
      some (.held (s.raised policy.backoff.counterTtl.secs now a.app a.index)) := by
  obtain ⟨there, named, _⟩ := (restartsDecided keyed done).mp restarts
  obtain ⟨c, raised, same⟩ := List.mem_map.mp ((renewedKeys keyed done).mpr ⟨a, restarts⟩)
  obtain ⟨c, raised, same, held⟩ := Rows.getPutSome (t := s.crashCounts) ⟨c, raised, same⟩
  obtain ⟨b, decided, _, rfl⟩ := (decidedCounts keyed done).mp raised
  rw [raisedKey keyed] at same
  -- Only one of the new starts has this key, so the count is the one it raises.
  have only : b = a := List.inj_on_of_nodup_map (startsGained keyed done).apart decided there
    (same.trans named.symm)
  rw [held, only]

theorem concludedCounts (k : String) :
    Counts policy.backoff.counterTtl.secs now failing s s' k := by
  have table : s'.crashCounts = (Rows.remove (Rows.put CrashCount.key s.crashCounts d.crashCounts)
      ((spared { failing } (outlived g.log now d.crashCounts)).map CrashCount.key)).2 := by
    rw [done.store]
    rfl
  have gone : k ∈ (spared { failing } (outlived g.log now d.crashCounts)).map CrashCount.key ↔
      "delete_crash_counters" ∉ failing ∧
        k ∈ (outlived g.log now d.crashCounts).map CrashCount.key := by
    unfold spared
    by_cases refused : "delete_crash_counters" ∈ failing <;> simp [refused]
  constructor
  · intro a restarts
    rw [table, Rows.getRemove, if_neg, countWritten keyed done restarts]
    rw [gone, outlivedKeys keyed done]
    exact fun both => both.2.2 ⟨a, restarts⟩
  · intro calm
    have other : ∀ c ∈ d.crashCounts, c.key ≠ k := fun c member same =>
      calm ((renewedKeys keyed done).mp (List.mem_map.mpr ⟨c, member, same⟩))
    rw [table, Rows.getRemove, Rows.getPutOther other]
    simp only [gone, outlivedKeys keyed done, calm, not_false_eq_true, and_true]
    cases found : s.crashCounts.get? k with
    | none => simp
    | some row =>
      obtain ⟨counts, read, _⟩ := done.seen.log
      obtain ⟨c, _, reads⟩ := Rows.scanReads read found
      have record : s.crashCounts.record? k = some c := by
        rw [Rows.record?, found]
        exact (Row.readSettled CrashCount.settle).mp reads
      by_cases refused : "delete_crash_counters" ∈ failing
      · simp [refused]
      · cases lasts : c.isCurrent policy.backoff.counterTtl.secs now <;>
          simp [refused, Store.current?, record, lasts]

end

theorem countAfter {w w' : World} (keyed : w.store.Keyed)
    (ended : analyze policy now { failing } w = (.ok (.ok r), w')) (k : String) :
    Counts policy.backoff.counterTtl.secs now failing w.store w'.store k := by
  obtain ⟨g, d, done⟩ := analyzeConcludes ended
  exact concludedCounts keyed done k

def flapping : Store :=
  let web : App := ⟨"web", "v1"⟩
  let four (a b c d : InstanceState) (time : Nat) : List Heartbeat :=
    [⟨web, 0, "a", a, time⟩, ⟨web, 1, "b", b, time⟩, ⟨web, 2, "c", c, time⟩, ⟨web, 3, "d", d, time⟩]
  .after {} (.ofSecs 30) [
    .sync [⟨web, 4, .started, .staged, 0⟩] 1000,
    .flush ⟨four .running .crashed .crashed .running 1000, 1000⟩,
    .analysis 1000 [],
    .sync [⟨web, 4, .started, .staged, 0⟩] 2500,
    .flush ⟨four .crashed .running .running .crashed 2500, 2500⟩,
    .analysis 2500 [],
    .dispatch 2500 [] fun _ => true,
    .sync [⟨web, 4, .started, .staged, 0⟩] 3000,
    .flush ⟨four .crashed .crashed .running .running 3000, 3000⟩,
    .dispatch 3000 [] fun _ => true]

theorem flappingCounted : ∃ w',
    analyze {} 3000 {} ⟨flapping, []⟩ = (.ok (.ok ⟨1, 0, 2, 0, 0, 0, 2, 1⟩), w') ∧
      (∀ k, Counts ({} : Policy).backoff.counterTtl.secs 3000 [] flapping w'.store k) ∧
      flapping.crashCounts.entries =
        [("web,v1,0", .held ⟨⟨"web", "v1"⟩, 0, 1, 2500⟩), ("web,v1,1", .held ⟨⟨"web", "v1"⟩, 1, 1, 1000⟩),
          ("web,v1,2", .held ⟨⟨"web", "v1"⟩, 2, 1, 1000⟩),
          ("web,v1,3", .held ⟨⟨"web", "v1"⟩, 3, 1, 2500⟩)] ∧
      w'.store.crashCounts.entries =
        [("web,v1,0", .held ⟨⟨"web", "v1"⟩, 0, 2, 2500⟩), ("web,v1,1", .held ⟨⟨"web", "v1"⟩, 1, 1, 3000⟩),
          ("web,v1,3", .held ⟨⟨"web", "v1"⟩, 3, 1, 2500⟩)] := by
  have reported : (analyze {} 3000 {} ⟨flapping, []⟩).1 = .ok (.ok ⟨1, 0, 2, 0, 0, 0, 2, 1⟩) := by
    decide +kernel
  have ended : analyze {} 3000 {} ⟨flapping, []⟩ = (.ok (.ok ⟨1, 0, 2, 0, 0, 0, 2, 1⟩), _) :=
    Prod.ext reported rfl
  have keyed : flapping.Keyed := Store.reachableKeyed (Store.afterReachable _ _ _)
  have counted := countAfter (w := ⟨flapping, []⟩) keyed ended
  exact ⟨_, ended, counted, by decide +kernel, by decide +kernel⟩

end Analysis
end Fleet
