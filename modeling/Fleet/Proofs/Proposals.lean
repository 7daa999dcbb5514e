import Fleet.Proofs.Convergence

/-! What a proposal says of the index of each start and of the instance of each stop, the
fields that do not depend on the crash log or the time; no index is started twice and no
instance stopped twice. -/
namespace Fleet

def Start.Before (a b : Start) : Prop :=
  compare a.app b.app = .lt ∨ a.app = b.app ∧ a.index < b.index

namespace View
variable {v : View} {i : Nat}

theorem needBare (bare : v.need i = .missing ∨ v.need i = .crashed) : v.liveAt i = [] := by
  unfold need at bare
  split at bare
  · rename_i empty
    exact List.isEmpty_iff.mp empty
  · split at bare <;> simp at bare

theorem targetWanted (inside : i < v.target) : v.isDesired = true := by
  cases spec : v.desired with
  | none => simp [target, spec] at inside
  | some d =>
    cases wanted : d.wanted with
    | false => simp [target, spec, Spec.target, wanted] at inside
    | true => simp [isDesired, spec, wanted]

end View

namespace Proposal
variable {policy : Policy} {log : CrashLog} {now : Nat} {v : View}

structure Opens (v : View) (i : Nat) (s : Start) : Prop where
  app : s.app = v.app
  index : s.index = i
  priority : s.priority = v.unsatisfied
  unsent : s.delivery.sentOn = 0
  skips : s.delivery.skipVerification = true ↔ s.reason = .evacuating
  missing : s.reason = .missing → s.delivery.keepAlive = 0
  bare : s.delivery.skipVerification = false → v.liveAt i = []

theorem startForCases {i : Nat} {s : Start} (proposed : startFor policy log now v i = some s) :
    (v.need i = .missing ∧
      s = ⟨v.app, i, .missing, v.unsatisfied, delivery (after now policy.grace.secs) 0 false⟩) ∨
    (v.need i = .crashed ∧ s = ⟨v.app, i, .crashed, v.unsatisfied,
      delivery (after now (policy.backoff.delay (log.count v.app i now).count).secs)
        policy.grace.secs false⟩) ∨
    (v.need i = .evacuating ∧
      s = ⟨v.app, i, .evacuating, v.unsatisfied, delivery now policy.grace.secs true⟩) := by
  unfold startFor at proposed
  cases need : v.need i <;> simp only [need, reduceCtorEq, Option.some.injEq] at proposed
  case missing => exact .inl ⟨rfl, proposed.symm⟩
  case crashed => exact .inr (.inl ⟨rfl, proposed.symm⟩)
  case evacuating => exact .inr (.inr ⟨rfl, proposed.symm⟩)

theorem startForOpens {i : Nat} {s : Start} (proposed : startFor policy log now v i = some s) :
    Opens v i s := by
  rcases startForCases proposed with ⟨need, rfl⟩ | ⟨need, rfl⟩ | ⟨_, rfl⟩
  · exact ⟨rfl, rfl, rfl, rfl, by simp [delivery], fun _ => rfl, fun _ => View.needBare (.inl need)⟩
  · exact ⟨rfl, rfl, rfl, rfl, by simp [delivery], nofun, fun _ => View.needBare (.inr need)⟩
  · exact ⟨rfl, rfl, rfl, rfl, by simp [delivery], nofun, nofun⟩

theorem startsProposed {s : Start} (member : s ∈ (ofView policy log now v).starts) :
    ∃ i < v.target, startFor policy log now v i = some s := by
  unfold ofView at member
  split at member
  · cases member
  · obtain ⟨i, inside, proposed⟩ := List.mem_filterMap.mp member
    exact ⟨i, List.mem_range.mp inside, proposed⟩

theorem memStarts {s : Start} (member : s ∈ (ofView policy log now v).starts) :
    ∃ i < v.target, Opens v i s := by
  obtain ⟨i, inside, proposed⟩ := startsProposed member
  exact ⟨i, inside, startForOpens proposed⟩

theorem startsInOrder (policy : Policy) (log : CrashLog) (now : Nat) (v : View) :
    (ofView policy log now v).starts.Pairwise Start.Before := by
  unfold ofView
  split
  · exact .nil
  · refine List.pairwise_filterMap.mpr (List.pairwise_lt_range.imp ?_)
    intro i j below a proposed b proposed'
    have opens := startForOpens proposed
    have opens' := startForOpens proposed'
    rw [← opens.index, ← opens'.index] at below
    exact .inr ⟨opens.app.trans opens'.app.symm, below⟩

def Stops (policy : Policy) (h : Heartbeat) (s : Stop) : Prop :=
  ∃ reason sendOn, s = stopOf policy h reason sendOn

def StopsFrom (policy : Policy) (now : Nat) (h : Heartbeat) (s : Stop) : Prop :=
  (∃ reason, s = stopOf policy h reason now) ∨ ∃ d, s = stopOf policy h .duplicate (after now d)

theorem StopsFrom.stops {h : Heartbeat} {s : Stop} (timed : StopsFrom policy now h s) :
    Stops policy h s := by
  rcases timed with ⟨reason, rfl⟩ | ⟨d, rfl⟩
  · exact ⟨reason, now, rfl⟩
  · exact ⟨.duplicate, after now d, rfl⟩

theorem memStaggered {rank : Nat} {l : List Heartbeat} {s : Stop}
    (member : s ∈ staggered policy now rank l) : ∃ h ∈ l, StopsFrom policy now h s := by
  induction l generalizing rank with
  | nil => cases member
  | cons h rest ih =>
    rcases List.mem_cons.mp member with rfl | later
    · exact ⟨h, List.mem_cons_self, .inr ⟨_, rfl⟩⟩
    · obtain ⟨k, there, stops⟩ := ih later
      exact ⟨k, List.mem_cons_of_mem _ there, stops⟩

theorem memStopsAt {i : Nat} {s : Stop} (member : s ∈ stopsAt policy now v i) :
    ∃ h ∈ leavingAt v i, StopsFrom policy now h s := by
  simp only [stopsAt] at member
  simp only [leavingAt]
  split at member
  · cases member
  · rename_i serving
    rw [if_neg serving]
    rcases List.mem_append.mp member with evacuating | behind
    · obtain ⟨h, there, rfl⟩ := List.mem_map.mp evacuating
      exact ⟨h, List.mem_append_left _ there, .inl ⟨_, rfl⟩⟩
    · obtain ⟨h, there, stops⟩ := memStaggered behind
      exact ⟨h, List.mem_append_right _ there, stops⟩

theorem memStopsFor {s : Stop} (member : s ∈ stopsFor policy now v) :
    ∃ h ∈ leaving v, StopsFrom policy now h s := by
  rcases List.mem_append.mp member with extra | wanted
  · obtain ⟨h, there, rfl⟩ := List.mem_map.mp extra
    exact ⟨h, List.mem_append_left _ there, .inl ⟨_, rfl⟩⟩
  · obtain ⟨i, inside, there⟩ := List.mem_flatMap.mp wanted
    obtain ⟨h, leaves, stops⟩ := memStopsAt there
    exact ⟨h, List.mem_append_right _ (List.mem_flatMap.mpr ⟨i, inside, leaves⟩), stops⟩

theorem memStopsTimed {s : Stop} (member : s ∈ (ofView policy log now v).stops) :
    v.isStaging = false ∧ ∃ h ∈ leaving v, StopsFrom policy now h s := by
  unfold ofView at member
  split at member
  · cases member
  rename_i calm
  simp only at member
  split at member
  · exact ⟨by simpa using calm, memStopsFor member⟩
  · cases member

theorem memStops {s : Stop} (member : s ∈ (ofView policy log now v).stops) :
    v.isStaging = false ∧ ∃ h ∈ leaving v, Stops policy h s := by
  obtain ⟨calm, h, leaves, timed⟩ := memStopsTimed member
  exact ⟨calm, h, leaves, timed.stops⟩

theorem leavingLive {h : Heartbeat} (member : h ∈ leaving v) : h.isLive = true := by
  rcases List.mem_append.mp member with extra | wanted
  · have both := (List.mem_filter.mp extra).2
    simp only [Bool.and_eq_true] at both
    exact both.1
  · obtain ⟨i, _, there⟩ := List.mem_flatMap.mp wanted
    exact (View.memLiveAt.mp (memLeavingAt there)).2.2

theorem leavingUnserved {i : Nat} (bare : ¬ v.Served i) : leavingAt v i = [] := by
  have none : (v.liveAt i).filter (fun k => !k.isEvacuating) = [] :=
    List.filter_eq_nil_iff.mpr fun k live stays => bare ⟨k, live, by simpa using stays⟩
  simp [leavingAt, none]

theorem leavingAtOnce (distinct : v.heartbeats.Nodup) (i : Nat) : (leavingAt v i).Nodup := by
  by_cases served : v.Served i
  · obtain ⟨h, everybody, _⟩ := survivorAt served
    exact (List.nodup_cons.mp (everybody.nodup_iff.mp (distinct.filter _))).2
  · rw [leavingUnserved served]
    exact .nil

theorem leavingOnce (distinct : v.heartbeats.Nodup) : (leaving v).Nodup := by
  refine List.nodup_append.mpr ⟨distinct.filter _, List.nodup_flatMap.mpr ⟨?_, ?_⟩, ?_⟩
  · exact fun i _ => leavingAtOnce distinct i
  · refine List.pairwise_lt_range.imp fun {i j} below h here there => ?_
    have one := (View.memLiveAt.mp (memLeavingAt here)).2.1
    have two := (View.memLiveAt.mp (memLeavingAt there)).2.1
    omega
  · rintro h extra k wanted rfl
    have beyond := (List.mem_filter.mp extra).2
    obtain ⟨i, inside, there⟩ := List.mem_flatMap.mp wanted
    have here := (View.memLiveAt.mp (memLeavingAt there)).2.1
    have within := List.mem_range.mp inside
    simp only [Bool.and_eq_true, decide_eq_true_eq] at beyond
    omega

theorem stopsOnce (distinct : (v.heartbeats.map Heartbeat.guid).Nodup) (policy : Policy)
    (log : CrashLog) (now : Nat) : ((ofView policy log now v).stops.map Stop.guid).Nodup := by
  cases calm : v.isStaging with
  | true => simp [ofView, calm, nothing]
  | false =>
    rw [stopsLeaving calm]
    split
    · refine List.Nodup.map_on (fun h one k two same => ?_) (leavingOnce (List.Nodup.of_map _ distinct))
      exact List.inj_on_of_nodup_map distinct (leavingListed one) (leavingListed two) same
    · exact .nil

end Proposal
end Fleet
