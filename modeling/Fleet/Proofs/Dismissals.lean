import Fleet.Proofs.Lists
import Fleet.Proofs.Proposals

/-! Which instances are stopped once nothing is to be started: all beyond the wanted indices,
and at each wanted index the ones that evacuate and everybody behind the survivor, who go one
grace period after the other. -/
namespace Fleet

def Heartbeat.KeptBefore (a b : Heartbeat) : Prop :=
  (a.state = .running ∧ b.state ≠ .running) ∨
    ((a.state = .running ↔ b.state = .running) ∧ a.guid < b.guid)

namespace View
variable {v : View} {i : Nat}

def servingAt (v : View) (index : Nat) : List Heartbeat :=
  (v.liveAt index).filter fun h => !h.isEvacuating

theorem servingSome (served : v.Served i) : (v.servingAt i).isEmpty = false := by
  obtain ⟨h, member, stays⟩ := served
  exact List.isEmpty_eq_false_iff_exists_mem.mpr ⟨h, List.mem_filter.mpr ⟨member, by simp [stays]⟩⟩

end View

namespace Proposal
variable {policy : Policy} {log : CrashLog} {now : Nat} {v : View} {i : Nat}

def behind (v : View) (index : Nat) : List Heartbeat :=
  (arrange keepsBefore ((v.liveAt index).filter fun h => !h.isEvacuating)).drop 1

theorem keepsBeforeIff {a b : Heartbeat} : keepsBefore a b = true ↔
    (a.state = .running ∧ b.state ≠ .running) ∨
      ((a.state = .running ↔ b.state = .running) ∧ (compare a.guid b.guid).isLE = true) := by
  have below : compare false true = .lt := rfl
  unfold keepsBefore
  by_cases first : a.state = .running <;> by_cases second : b.state = .running <;>
    simp [first, second, below]

theorem keepsBeforeTotal (a b : Heartbeat) (above : keepsBefore a b = false) :
    keepsBefore b a = true := by
  rw [← Bool.not_eq_true, keepsBeforeIff] at above
  rw [keepsBeforeIff]
  have total : (compare a.guid b.guid).isLE = true ∨ (compare b.guid a.guid).isLE = true := by
    rw [Std.OrientedOrd.eq_swap (a := b.guid)]
    cases compare a.guid b.guid <;> simp
  grind

theorem keepsBeforeChain (a b c : Heartbeat) (first : keepsBefore a b = true)
    (second : keepsBefore b c = true) : keepsBefore a c = true := by
  rw [keepsBeforeIff] at *
  have chain : (compare a.guid b.guid).isLE = true → (compare b.guid c.guid).isLE = true →
      (compare a.guid c.guid).isLE = true := Std.TransOrd.isLE_trans
  grind

theorem keptBeforeOf {a b : Heartbeat} (before : keepsBefore a b = true) (apart : a.guid ≠ b.guid) :
    a.KeptBefore b := by
  refine (keepsBeforeIff.mp before).imp_right fun ⟨alike, least⟩ => ⟨alike, ?_⟩
  refine compareOfLessAndEq_eq_lt.mp (?_ : compare a.guid b.guid = .lt)
  have differ : compare a.guid b.guid ≠ .eq := fun same => apart (Std.LawfulEqOrd.eq_of_compare same)
  cases order : compare a.guid b.guid <;> simp_all

theorem survivorBefore (distinct : (v.heartbeats.map Heartbeat.guid).Nodup) (served : v.Served i) :
    ∃ survivor, (survivor :: behind v i).Perm (v.servingAt i) ∧
      (survivor :: behind v i).Pairwise Heartbeat.KeptBefore := by
  have arranged := arrangePerm keepsBefore (v.servingAt i)
  have ordered := arrangeOrdered keepsBeforeTotal keepsBeforeChain (v.servingAt i)
  have apart : (arrange keepsBefore (v.servingAt i)).Pairwise fun a b => a.guid ≠ b.guid :=
    List.pairwise_map.mp ((arranged.map Heartbeat.guid).nodup_iff.mpr
      (distinct.sublist ((List.filter_sublist.trans List.filter_sublist).map _)))
  have strictly := (ordered.and apart).imp fun both => keptBeforeOf both.1 both.2
  have rest : behind v i = (arrange keepsBefore (v.servingAt i)).drop 1 := rfl
  cases split : arrange keepsBefore (v.servingAt i) with
  | nil =>
    rw [split] at arranged
    simpa [← arranged.nil_eq] using View.servingSome served
  | cons survivor others =>
    rw [split] at arranged strictly rest
    rw [rest, List.drop_one, List.tail_cons]
    exact ⟨survivor, arranged, strictly⟩

theorem staggeredRanked (rank : Nat) (l : List Heartbeat) : staggered policy now rank l =
    l.mapIdx fun j h =>
      stopOf policy h .duplicate (min (now + (rank + j) * policy.grace.secs) Bounds.instant) := by
  induction l generalizing rank with
  | nil => rfl
  | cons h rest ih =>
    have time : after now (repeated rank policy.grace.secs) =
        min (now + rank * policy.grace.secs) Bounds.instant := by
      unfold after repeated
      omega
    simp [staggered, ih, time, List.mapIdx_cons, Nat.add_assoc, Nat.add_comm 1]

theorem staggeredReason {rank : Nat} {l : List Heartbeat} {s : Stop}
    (member : s ∈ staggered policy now rank l) : s.reason = .duplicate := by
  rw [staggeredRanked] at member
  obtain ⟨j, _, rfl⟩ := List.mem_mapIdx.mp member
  rfl

theorem filterReason (policy : Policy) (now : Nat) (l : List Heartbeat) (one other : StopReason) :
    (l.map fun h => stopOf policy h one now).filter (·.reason = other) =
      if one = other then l.map fun h => stopOf policy h one now else [] := by
  rw [List.filter_map]
  split <;> rename_i same <;> simp [Function.comp_def, stopOf, same]

theorem stopsAtIndex {s : Stop} (member : s ∈ stopsAt policy now v i) : s.index = i := by
  obtain ⟨h, leaves, timed⟩ := memStopsAt member
  obtain ⟨_, _, rfl⟩ := timed.stops
  exact (View.memLiveAt.mp (memLeavingAt leaves)).2.1

theorem stopsAtDuplicates (policy : Policy) (now : Nat) (v : View) (i : Nat) :
    (stopsAt policy now v i).filter (·.reason = .duplicate) = staggered policy now 1 (behind v i) := by
  have all : (staggered policy now 1 (behind v i)).filter (·.reason = .duplicate) =
      staggered policy now 1 (behind v i) :=
    List.filter_eq_self.mpr fun s member => by simp [staggeredReason member]
  simp only [stopsAt]
  split
  · rename_i nobody
    have bare : behind v i = [] := by simp [behind, List.isEmpty_iff.mp nobody, arrange]
    rw [bare]
    rfl
  · rw [List.filter_append, filterReason, if_neg (by decide), List.nil_append]
    exact all

theorem stopsAtEvacuations (served : v.Served i) :
    (stopsAt policy now v i).filter (·.reason = .evacuationComplete) =
      ((v.liveAt i).filter Heartbeat.isEvacuating).map (stopOf policy · .evacuationComplete now) := by
  have none : (staggered policy now 1 (behind v i)).filter (·.reason = .evacuationComplete) = [] :=
    List.filter_eq_nil_iff.mpr fun s member => by simp [staggeredReason member]
  have some := View.servingSome served
  rw [View.servingAt] at some
  rw [stopsAt, if_neg (by simp [some]), List.filter_append, filterReason, if_pos rfl]
  exact (congrArg _ none).trans (List.append_nil _)

theorem stopsAtExtras (policy : Policy) (now : Nat) (v : View) (i : Nat) :
    (stopsAt policy now v i).filter (·.reason = .extra) = [] := by
  simp only [stopsAt]
  split
  · rfl
  · rw [List.filter_append, filterReason, if_neg (by decide), List.nil_append]
    exact List.filter_eq_nil_iff.mpr fun s member => by simp [staggeredReason member]

theorem extrasOf (policy : Policy) (now : Nat) (v : View) :
    (stopsFor policy now v).filter (·.reason = .extra) = extraStops policy now v := by
  rw [stopsFor, List.filter_append, extraStops, filterReason, if_pos rfl, List.filter_flatMap]
  simp [stopsAtExtras]

theorem stopsForAt {reason : StopReason} (other : reason ≠ .extra) (policy : Policy) (now : Nat)
    (v : View) (i : Nat) : (stopsFor policy now v).filter (fun s => s.reason = reason && s.index = i) =
      if i < v.target then (stopsAt policy now v i).filter (·.reason = reason) else [] := by
  have extras : (extraStops policy now v).filter (fun s => s.reason = reason && s.index = i) = [] := by
    refine List.filter_eq_nil_iff.mpr fun s member => ?_
    obtain ⟨h, _, rfl⟩ := List.mem_map.mp member
    simp [stopOf, other.symm]
  have each : ∀ j, (stopsAt policy now v j).filter (fun s => s.reason = reason && s.index = i) =
      if j = i then (stopsAt policy now v j).filter (·.reason = reason) else [] := by
    intro j
    split
    · rename_i same
      exact List.filter_congr fun s member => by simp [stopsAtIndex member, same]
    · rename_i apart
      exact List.filter_eq_nil_iff.mpr fun s member => by simp [stopsAtIndex member, apart]
  rw [stopsFor, List.filter_append, extras, List.nil_append, List.filter_flatMap]
  simp only [each]
  exact flatMapAt (fun j => (stopsAt policy now v j).filter (·.reason = reason)) i v.target

structure Dismissed (policy : Policy) (now : Nat) (v : View) (p : Proposal) : Prop where
  extras : p.stops.filter (·.reason = .extra) =
    (v.heartbeats.filter fun h => h.isLive && v.target ≤ h.index).map (stopOf policy · .extra now)
  evacuated : ∀ i < v.target,
    p.stops.filter (fun s => s.reason = .evacuationComplete && s.index = i) =
      ((v.liveAt i).filter Heartbeat.isEvacuating).map (stopOf policy · .evacuationComplete now)
  duplicates : ∀ i < v.target, ∃ survivor others,
    (survivor :: others).Perm (v.servingAt i) ∧
      (survivor :: others).Pairwise Heartbeat.KeptBefore ∧
      p.stops.filter (fun s => s.reason = .duplicate && s.index = i) =
        others.mapIdx fun j h =>
          stopOf policy h .duplicate (min (now + (j + 1) * policy.grace.secs) Bounds.instant)
  within : ∀ s ∈ p.stops, s.reason = .extra ∨ s.index < v.target

theorem stopsDismissed (distinct : (v.heartbeats.map Heartbeat.guid).Nodup)
    (calm : v.isStaging = false) (quiet : (ofView policy log now v).starts = []) :
    Dismissed policy now v (ofView policy log now v) := by
  have served := (noStarts calm).mp quiet
  have stops : (ofView policy log now v).stops = stopsFor policy now v := by
    have none : (List.range v.target).filterMap (startFor policy log now v) = [] := by
      simpa [ofView, calm] using quiet
    simp [ofView, calm, none]
  constructor
  · rw [stops, extrasOf]
    rfl
  · intro i inside
    rw [stops, stopsForAt (by decide), if_pos inside, stopsAtEvacuations (served i inside)]
  · intro i inside
    obtain ⟨survivor, everybody, ordered⟩ := survivorBefore distinct (served i inside)
    refine ⟨survivor, behind v i, everybody, ordered, ?_⟩
    rw [stops, stopsForAt (by decide), if_pos inside, stopsAtDuplicates, staggeredRanked]
    simp only [Nat.add_comm 1]
  · intro s member
    rw [stops] at member
    rcases List.mem_append.mp member with extra | wanted
    · obtain ⟨h, _, rfl⟩ := List.mem_map.mp extra
      exact .inl rfl
    · obtain ⟨i, inside, there⟩ := List.mem_flatMap.mp wanted
      exact .inr (stopsAtIndex there ▸ List.mem_range.mp inside)

theorem crashedUnstopped (distinct : (v.heartbeats.map Heartbeat.guid).Nodup) {h : Heartbeat}
    (listed : h ∈ v.heartbeats) (crashed : h.isCrashed = true) :
    h.guid ∉ (ofView policy log now v).stops.map Stop.guid := by
  intro stopped
  obtain ⟨s, member, same⟩ := List.mem_map.mp stopped
  obtain ⟨_, k, leaves, _, _, rfl⟩ := memStops member
  have one := List.inj_on_of_nodup_map distinct (leavingListed leaves) listed same
  have live := leavingLive leaves
  rw [one] at live
  simp_all [Heartbeat.isLive, Heartbeat.isCrashed]

theorem surplusDismissed (distinct : (v.heartbeats.map Heartbeat.guid).Nodup)
    (calm : v.isStaging = false) (policy : Policy) (log : CrashLog) (now : Nat) :
    ((ofView policy log now v).starts ≠ [] → (ofView policy log now v).stops = []) ∧
    ((ofView policy log now v).starts = [] → Dismissed policy now v (ofView policy log now v)) ∧
    ((ofView policy log now v).stops.map Stop.guid).Nodup ∧
    ∀ h ∈ v.heartbeats, h.isCrashed = true →
      h.guid ∉ (ofView policy log now v).stops.map Stop.guid := by
  refine ⟨fun short => ?_, stopsDismissed distinct calm, stopsOnce distinct policy log now,
    fun h => crashedUnstopped distinct⟩
  rw [← List.map_eq_nil_iff (f := Stop.guid), stopsLeaving calm, if_neg short]

def crowded : View :=
  ⟨⟨"web", "v1"⟩, some ⟨⟨"web", "v1"⟩, 1, .started, .staged, 0⟩,
    [⟨⟨"web", "v1"⟩, 0, "a", .starting, 9⟩, ⟨⟨"web", "v1"⟩, 0, "b", .evacuating, 9⟩,
      ⟨⟨"web", "v1"⟩, 0, "d", .running, 9⟩, ⟨⟨"web", "v1"⟩, 0, "c", .running, 9⟩,
      ⟨⟨"web", "v1"⟩, 0, "e", .crashed, 9⟩, ⟨⟨"web", "v1"⟩, 1, "f", .running, 9⟩]⟩

theorem crowdedDismissed : (crowded.heartbeats.map Heartbeat.guid).Nodup ∧
    crowded.isStaging = false ∧
    ∃ p, p = ofView {} (.ofList [] .zero) 10 crowded ∧ Dismissed {} 10 crowded p ∧
      p.stops.map (fun s => (s.guid, s.reason, s.delivery.sendOn)) =
        [("f", .extra, 10), ("b", .evacuationComplete, 10), ("d", .duplicate, 40),
          ("a", .duplicate, 70)] := by
  have distinct : (crowded.heartbeats.map Heartbeat.guid).Nodup := by decide
  have dismissed := (surplusDismissed distinct rfl {} (.ofList [] .zero) 10).2.1
  exact ⟨distinct, rfl, _, rfl, dismissed (by decide +kernel), by decide +kernel⟩

end Proposal
end Fleet
