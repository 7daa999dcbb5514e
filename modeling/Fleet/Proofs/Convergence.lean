import Mathlib.Data.Fintype.EquivFin
import Mathlib.Data.List.Forall2
import Mathlib.Data.List.Nodup
import Fleet.Proposal

/-! An ideal executor brings one running instance up for every start and takes the live
instance of every stop away. Whatever the crash log and the time of each round, two rounds
of it leave exactly one live instance at every wanted index, and none elsewhere. -/
namespace Fleet

namespace View
variable {v : View} {i : Nat}

def Served (v : View) (index : Nat) : Prop := ∃ h ∈ v.liveAt index, h.isEvacuating = false

structure Settled (v : View) : Prop where
  one : ∀ i < v.target, ∃ h, v.liveAt i = [h] ∧ h.isEvacuating = false
  none : ∀ i, v.target ≤ i → v.liveAt i = []

structure Sparse (v : View) : Prop where
  few : ∀ i, (v.liveAt i).length ≤ 1
  staying : ∀ i, ∀ h ∈ v.liveAt i, h.isEvacuating = false
  none : ∀ i, v.target ≤ i → v.liveAt i = []

def isStarted (v : View) (index : Nat) : Bool := v.need index ≠ .served && v.need index ≠ .gated

theorem liveAtNone (down : v.hasLive = false) (i : Nat) : v.liveAt i = [] := by
  refine List.eq_nil_iff_forall_not_mem.mpr fun h member => ?_
  obtain ⟨listed, _, live⟩ := memLiveAt.mp member
  have := List.any_eq_false.mp down h listed
  exact this live

theorem hasLiveOf {h : Heartbeat} (member : h ∈ v.liveAt i) : v.hasLive = true := by
  obtain ⟨listed, _, live⟩ := memLiveAt.mp member
  exact List.any_eq_true.mpr ⟨h, listed, live⟩

theorem needServed : v.need i = .served ↔ v.Served i := by
  unfold need Served
  by_cases empty : v.liveAt i = []
  · simp only [empty, List.isEmpty_nil, if_true, List.not_mem_nil, false_and, exists_false, iff_false]
    split
    · simp
    · split <;> simp
  · have some : (v.liveAt i).isEmpty = false := by simpa using empty
    simp only [some, Bool.false_eq_true, if_false]
    split
    · rename_i all
      simp only [List.all_eq_true] at all
      simp only [reduceCtorEq, false_iff, not_exists, not_and]
      exact fun h member => by simp [all h member]
    · rename_i some
      simpa using some

theorem needGated (gated : v.need i = .gated) : i ≠ 0 ∧ v.hasLive = false := by
  unfold need at gated
  repeat' split at gated
  all_goals simp_all

theorem isStartedOf (bare : ¬ v.Served i) (up : i = 0 ∨ v.hasLive = true) :
    v.isStarted i = true := by
  have unserved : v.need i ≠ .served := fun h => bare (needServed.mp h)
  have ungated : v.need i ≠ .gated := by
    intro gated
    obtain ⟨other, down⟩ := needGated gated
    rcases up with first | live
    · exact other first
    · simp [down] at live
  simp [isStarted, unserved, ungated]

theorem servedNotStarted (served : v.Served i) : v.isStarted i = false := by
  simp [isStarted, needServed.mpr served]

theorem settledSparse (settled : v.Settled) : v.Sparse where
  few i := by
    rcases Nat.lt_or_ge i v.target with wanted | extra
    · obtain ⟨h, only, _⟩ := settled.one i wanted
      simp [only]
    · simp [settled.none i extra]
  staying i h member := by
    rcases Nat.lt_or_ge i v.target with wanted | extra
    · obtain ⟨k, only, stays⟩ := settled.one i wanted
      rw [only, List.mem_singleton] at member
      exact member ▸ stays
    · simp [settled.none i extra] at member
  none := settled.none

theorem settledServed (settled : v.Settled) : ∀ i < v.target, v.Served i := by
  intro i wanted
  obtain ⟨h, only, stays⟩ := settled.one i wanted
  exact ⟨h, by simp [only], stays⟩

theorem sparseServed (sparse : v.Sparse) (served : ∀ i < v.target, v.Served i) : v.Settled where
  one i wanted := by
    obtain ⟨h, member, stays⟩ := served i wanted
    refine ⟨h, ?_, stays⟩
    obtain ⟨k, only⟩ := List.length_eq_one_iff.mp
      (Nat.le_antisymm (sparse.few i) (List.length_pos_of_mem member))
    rw [only, List.mem_singleton] at member
    rw [only, member]
  none := sparse.none

end View

namespace Proposal
variable {policy : Policy} {log : CrashLog} {now : Nat} {v : View}

theorem startForIndex {i : Nat} :
    (startFor policy log now v i).map Start.index = if v.isStarted i then some i else none := by
  unfold startFor View.isStarted
  cases v.need i <;> simp

theorem startIndices (calm : v.isStaging = false) :
    (ofView policy log now v).starts.map Start.index = (List.range v.target).filter v.isStarted := by
  have plain : (ofView policy log now v).starts =
      (List.range v.target).filterMap (startFor policy log now v) := by simp [ofView, calm]
  rw [plain, List.map_filterMap, ← List.filterMap_eq_filter]
  refine List.filterMap_congr fun i _ => startForIndex.trans ?_
  simp [Option.guard]

def leavingAt (v : View) (index : Nat) : List Heartbeat :=
  let evacuating := (v.liveAt index).filter Heartbeat.isEvacuating
  let serving := (v.liveAt index).filter fun h => !h.isEvacuating
  if serving.isEmpty then [] else evacuating ++ (arrange keepsBefore serving).drop 1

def leaving (v : View) : List Heartbeat :=
  (v.heartbeats.filter fun h => h.isLive && v.target ≤ h.index) ++
    (List.range v.target).flatMap (leavingAt v)

theorem staggeredGuids (rank : Nat) (l : List Heartbeat) :
    (staggered policy now rank l).map Stop.guid = l.map Heartbeat.guid := by
  induction l generalizing rank with
  | nil => rfl
  | cons h rest ih => simp [staggered, stopOf, ih]

theorem stopGuids : (stopsFor policy now v).map Stop.guid = (leaving v).map Heartbeat.guid := by
  have each : ∀ i, (stopsAt policy now v i).map Stop.guid = (leavingAt v i).map Heartbeat.guid := by
    intro i
    simp only [stopsAt, leavingAt]
    split
    · rfl
    · simp [staggeredGuids, stopOf, Function.comp_def]
  simp [stopsFor, extraStops, leaving, List.map_flatMap, each, stopOf, Function.comp_def]

theorem stopsLeaving (calm : v.isStaging = false) :
    (ofView policy log now v).stops.map Stop.guid =
      if (ofView policy log now v).starts = [] then (leaving v).map Heartbeat.guid else [] := by
  simp only [ofView, calm, Bool.false_eq_true, if_false, List.isEmpty_iff]
  split
  · exact stopGuids
  · rfl

theorem memLeavingAt {i : Nat} {h : Heartbeat} (member : h ∈ leavingAt v i) : h ∈ v.liveAt i := by
  simp only [leavingAt] at member
  split at member
  · exact absurd member List.not_mem_nil
  · rcases List.mem_append.mp member with evacuating | behind
    · exact List.mem_of_mem_filter evacuating
    · have arranged := List.mem_of_mem_drop behind
      exact List.mem_of_mem_filter ((arrangePerm keepsBefore _).mem_iff.mp arranged)

theorem leavingListed {h : Heartbeat} (member : h ∈ leaving v) : h ∈ v.heartbeats := by
  rcases List.mem_append.mp member with extra | wanted
  · exact List.mem_of_mem_filter extra
  · obtain ⟨i, _, there⟩ := List.mem_flatMap.mp wanted
    exact (View.memLiveAt.mp (memLeavingAt there)).1

theorem leavingExtra {i : Nat} {h : Heartbeat} (member : h ∈ v.liveAt i) (extra : v.target ≤ i) :
    h ∈ leaving v := by
  obtain ⟨listed, rfl, live⟩ := View.memLiveAt.mp member
  exact List.mem_append_left _ (List.mem_filter.mpr ⟨listed, by simp [live, extra]⟩)

theorem leavingWanted {i : Nat} {h : Heartbeat} (member : h ∈ v.liveAt i) (wanted : i < v.target) :
    h ∈ leaving v ↔ h ∈ leavingAt v i := by
  obtain ⟨_, here, _⟩ := View.memLiveAt.mp member
  constructor
  · intro leaves
    rcases List.mem_append.mp leaves with extra | leaves
    · have beyond := (List.mem_filter.mp extra).2
      simp only [Bool.and_eq_true, decide_eq_true_eq] at beyond
      omega
    · obtain ⟨j, _, there⟩ := List.mem_flatMap.mp leaves
      obtain ⟨_, same, _⟩ := View.memLiveAt.mp (memLeavingAt there)
      rwa [← here, same]
  · exact fun leaves =>
      List.mem_append_right _ (List.mem_flatMap.mpr ⟨i, List.mem_range.mpr wanted, leaves⟩)

theorem survivorAt {i : Nat} (served : v.Served i) :
    ∃ h, (v.liveAt i).Perm (h :: leavingAt v i) ∧ h.isEvacuating = false := by
  obtain ⟨k, member, stays⟩ := served
  have some : k ∈ (v.liveAt i).filter fun h => !h.isEvacuating :=
    List.mem_filter.mpr ⟨member, by simp [stays]⟩
  have arranged := arrangePerm keepsBefore ((v.liveAt i).filter fun h => !h.isEvacuating)
  cases split : arrange keepsBefore ((v.liveAt i).filter fun h => !h.isEvacuating) with
  | nil =>
    rw [split] at arranged
    rw [arranged.nil_eq.symm] at some
    exact absurd some List.not_mem_nil
  | cons h behind =>
    rw [split] at arranged
    have full : ((v.liveAt i).filter fun h => !h.isEvacuating).isEmpty = false :=
      List.isEmpty_eq_false_iff_exists_mem.mpr ⟨k, some⟩
    have serving : h ∈ (v.liveAt i).filter fun h => !h.isEvacuating :=
      arranged.mem_iff.mp List.mem_cons_self
    refine ⟨h, ?_, by simpa using (List.mem_filter.mp serving).2⟩
    simp only [leavingAt, full, Bool.false_eq_true, if_false, split, List.drop_one, List.tail_cons]
    have parted := (List.filter_append_perm Heartbeat.isEvacuating (v.liveAt i)).symm
    exact (parted.trans (arranged.symm.append_left _)).trans List.perm_middle

theorem noStarts (calm : v.isStaging = false) :
    (ofView policy log now v).starts = [] ↔ ∀ i < v.target, v.Served i := by
  rw [← List.map_eq_nil_iff (f := Start.index), startIndices calm, List.filter_eq_nil_iff]
  simp only [List.mem_range, Bool.not_eq_true]
  constructor
  · intro quiet i wanted
    by_contra bare
    -- Somebody lives, or index 0 would be started.
    have up : v.hasLive = true := by
      by_contra down
      have first := quiet 0 (Nat.zero_lt_of_lt wanted)
      have empty : ¬ v.Served 0 := by
        rintro ⟨h, member, _⟩
        exact down (View.hasLiveOf member)
      exact absurd (View.isStartedOf empty (.inl rfl)) (by simp [first])
    exact absurd (View.isStartedOf bare (.inr up)) (by simp [quiet i wanted])
  · exact fun served i wanted => View.servedNotStarted (served i wanted)

theorem sparseLeaving (sparse : v.Sparse) : leaving v = [] := by
  refine List.append_eq_nil_iff.mpr ⟨List.filter_eq_nil_iff.mpr ?_, List.flatMap_eq_nil_iff.mpr ?_⟩
  · intro h listed both
    simp only [Bool.and_eq_true, decide_eq_true_eq] at both
    have member : h ∈ v.liveAt h.index := View.memLiveAt.mpr ⟨listed, rfl, both.1⟩
    rw [sparse.none _ both.2] at member
    exact absurd member List.not_mem_nil
  · intro i _
    by_cases served : v.Served i
    · obtain ⟨h, everybody, _⟩ := survivorAt served
      have few := everybody.length_eq ▸ sparse.few i
      rw [List.length_cons] at few
      exact List.length_eq_zero_iff.mp (by omega)
    · refine List.eq_nil_iff_forall_not_mem.mpr fun h member => served ?_
      exact ⟨h, memLeavingAt member, sparse.staying i h (memLeavingAt member)⟩

theorem noStopsSparse (calm : v.isStaging = false) (sparse : v.Sparse) :
    (ofView policy log now v).stops = [] := by
  rw [← List.map_eq_nil_iff (f := Stop.guid), stopsLeaving calm, sparseLeaving sparse]
  split <;> rfl

theorem emptyIffSettled (calm : v.isStaging = false) :
    (ofView policy log now v).isEmpty = true ↔ v.Settled := by
  simp only [isEmpty, Bool.and_eq_true, List.isEmpty_iff]
  constructor
  · rintro ⟨starts, stops⟩
    have served := (noStarts calm).mp starts
    have nobody : leaving v = [] := by
      have guids := @stopsLeaving policy log now v calm
      rw [if_pos starts, stops] at guids
      exact List.map_eq_nil_iff.mp guids.symm
    constructor
    · intro i wanted
      obtain ⟨h, everybody, stays⟩ := survivorAt (served i wanted)
      have none : leavingAt v i = [] := by
        refine List.eq_nil_iff_forall_not_mem.mpr fun k member => ?_
        have leaves := (leavingWanted (memLeavingAt member) wanted).mpr member
        simp [nobody] at leaves
      rw [none] at everybody
      exact ⟨h, List.perm_singleton.mp everybody, stays⟩
    · intro i extra
      refine List.eq_nil_iff_forall_not_mem.mpr fun h member => ?_
      have leaves := leavingExtra member extra
      simp [nobody] at leaves
  · intro settled
    exact ⟨(noStarts calm).mpr (View.settledServed settled),
      noStopsSparse calm (View.settledSparse settled)⟩

def spares (p : Proposal) (h : Heartbeat) : Bool :=
  !(h.isLive && (p.stops.map Stop.guid).contains h.guid)

structure Brings (s : Start) (h : Heartbeat) : Prop where
  app : h.app = s.app
  index : h.index = s.index
  running : h.state = .running

/-- The reports may come in any order and at any time; no two instances share a guid. -/
structure Carried (p : Proposal) (v v' : View) : Prop where
  app : v'.app = v.app
  desired : v'.desired = v.desired
  heartbeats : ∃ added, List.Forall₂ Brings p.starts added ∧
    v'.heartbeats.Perm (v.heartbeats.filter p.spares ++ added)
  distinct : (v'.heartbeats.map Heartbeat.guid).Nodup

inductive Rounds (policy : Policy) (v : View) : Nat → View → Prop
  | none : Rounds policy v 0 v
  | next {n : Nat} {v' v'' : View} {log : CrashLog} {now : Nat} : Rounds policy v n v' →
      Carried (ofView policy log now v') v' v'' → Rounds policy v (n + 1) v''

variable {p : Proposal} {v' : View}

theorem newGuids (starts : List Start) {known : List String} (distinct : known.Nodup) :
    ∃ added, List.Forall₂ Brings starts added ∧ (known ++ added.map Heartbeat.guid).Nodup := by
  induction starts generalizing known with
  | nil => exact ⟨[], .nil, by simpa using distinct⟩
  | cons s starts ih =>
    obtain ⟨guid, unknown⟩ := Infinite.exists_notMem_finset known.toFinset
    have more : (known ++ [guid]).Nodup := by
      rw [← List.concat_eq_append]
      exact distinct.concat fun member => unknown (List.mem_toFinset.mpr member)
    obtain ⟨added, brings, distinct'⟩ := ih more
    refine ⟨⟨s.app, s.index, guid, .running, 0⟩ :: added, .cons ⟨rfl, rfl, rfl⟩ brings, ?_⟩
    simpa using distinct'

theorem carriedOut (p : Proposal) (distinct : (v.heartbeats.map Heartbeat.guid).Nodup) :
    ∃ v', Carried p v v' := by
  have kept : ((v.heartbeats.filter p.spares).map Heartbeat.guid).Nodup :=
    distinct.sublist (List.filter_sublist.map _)
  obtain ⟨added, brings, distinct'⟩ := newGuids p.starts kept
  refine ⟨{ v with heartbeats := v.heartbeats.filter p.spares ++ added }, rfl, rfl,
    ⟨added, brings, .refl _⟩, ?_⟩
  rwa [List.map_append]

theorem carriedTarget (carried : Carried p v v') : v'.target = v.target := by
  rw [View.target, View.target, carried.desired]

theorem carriedStaging (carried : Carried p v v') : v'.isStaging = v.isStaging := by
  rw [View.isStaging, View.isStaging, carried.desired]

theorem broughtAt {starts : List Start} {added : List Heartbeat}
    (brought : List.Forall₂ Brings starts added) (i : Nat) :
    (added.filter fun h => h.index = i && h.isLive).length = (starts.map Start.index).count i ∧
      ∀ h ∈ added.filter fun h => h.index = i && h.isLive, h.isEvacuating = false := by
  induction brought with
  | nil => simp
  | @cons s h starts added brings _ ih =>
    have live : h.isLive = true := by simp [Heartbeat.isLive, brings.running]
    have stays : h.isEvacuating = false := by simp [Heartbeat.isEvacuating, brings.running]
    simp only [List.filter_cons, live, brings.index, Bool.and_true, decide_eq_true_eq, List.map_cons,
      List.count_cons, beq_iff_eq]
    split
    · exact ⟨by rw [List.length_cons, ih.1], List.forall_mem_cons.mpr ⟨stays, ih.2⟩⟩
    · exact ih

theorem roundAt (calm : v.isStaging = false) (carried : Carried (ofView policy log now v) v v')
    (i : Nat) : ∃ brought : List Heartbeat, (∀ h ∈ brought, h.isEvacuating = false) ∧
      (v'.liveAt i).Perm ((v.liveAt i).filter (ofView policy log now v).spares ++ brought) ∧
      brought.length = if i < v.target ∧ v.isStarted i = true then 1 else 0 := by
  obtain ⟨added, brings, all⟩ := carried.heartbeats
  obtain ⟨number, stay⟩ := broughtAt brings i
  refine ⟨_, stay, ?_, ?_⟩
  · have here := all.filter fun h => h.index = i && h.isLive
    rwa [List.filter_append, List.filter_comm] at here
  · rw [number, startIndices calm, (List.nodup_range.filter _).count]
    simp

theorem sparesAll (none : p.stops = []) (l : List Heartbeat) : l.filter p.spares = l := by
  simp [spares, none]

theorem sparedAt (calm : v.isStaging = false) (distinct : (v.heartbeats.map Heartbeat.guid).Nodup)
    (quiet : (ofView policy log now v).starts = []) (i : Nat) :
    (v.liveAt i).filter (ofView policy log now v).spares = (v.liveAt i).filter (· ∉ leaving v) := by
  refine List.filter_congr fun h member => ?_
  obtain ⟨listed, _, live⟩ := View.memLiveAt.mp member
  have named : h.guid ∈ (leaving v).map Heartbeat.guid ↔ h ∈ leaving v :=
    ⟨fun guid => by
      obtain ⟨k, leaves, same⟩ := List.mem_map.mp guid
      exact List.inj_on_of_nodup_map distinct (leavingListed leaves) listed same ▸ leaves,
    List.mem_map_of_mem⟩
  simp [spares, stopsLeaving calm, quiet, live, named]

theorem survivorSpared (distinct : (v.heartbeats.map Heartbeat.guid).Nodup) {i : Nat}
    (served : v.Served i) (wanted : i < v.target) :
    ∃ h, (v.liveAt i).filter (· ∉ leaving v) = [h] ∧ h.isEvacuating = false := by
  obtain ⟨h, everybody, stays⟩ := survivorAt served
  have lone : (h :: leavingAt v i).Nodup :=
    everybody.nodup_iff.mp ((List.Nodup.of_map _ distinct).filter _)
  have staying : ∀ k ∈ v.liveAt i, k ∉ leaving v ↔ k ∉ leavingAt v i :=
    fun k member => not_congr (leavingWanted member wanted)
  refine ⟨h, List.perm_singleton.mp ?_, stays⟩
  rw [List.filter_congr fun k member => decide_eq_decide.mpr (staying k member)]
  refine (everybody.filter _).trans (.of_eq ?_)
  have behind : (leavingAt v i).filter (· ∉ leavingAt v i) = [] := by simp
  rw [List.filter_cons_of_pos (by simpa using (List.nodup_cons.mp lone).1), behind]

theorem servedRoundAt (calm : v.isStaging = false)
    (distinct : (v.heartbeats.map Heartbeat.guid).Nodup) (served : ∀ i < v.target, v.Served i)
    (carried : Carried (ofView policy log now v) v v') (i : Nat) :
    (v'.liveAt i).Perm ((v.liveAt i).filter (· ∉ leaving v)) := by
  have quiet : (ofView policy log now v).starts = [] := (noStarts calm).mpr served
  obtain ⟨brought, _, here, number⟩ := roundAt calm carried i
  have idle : ¬ (i < v.target ∧ v.isStarted i = true) := by
    rintro ⟨wanted, started⟩
    simp [View.servedNotStarted (served i wanted)] at started
  have nobody : brought = [] := List.length_eq_zero_iff.mp (by rw [number, if_neg idle])
  rwa [nobody, List.append_nil, sparedAt calm distinct quiet] at here

theorem servedRound (calm : v.isStaging = false)
    (distinct : (v.heartbeats.map Heartbeat.guid).Nodup) (served : ∀ i < v.target, v.Served i)
    (carried : Carried (ofView policy log now v) v v') : v'.Settled := by
  constructor
  · intro i wanted
    rw [carriedTarget carried] at wanted
    obtain ⟨h, only, stays⟩ := survivorSpared distinct (served i wanted) wanted
    exact ⟨h, List.perm_singleton.mp (only ▸ servedRoundAt calm distinct served carried i), stays⟩
  · intro i extra
    rw [carriedTarget carried] at extra
    have all : (v.liveAt i).filter (· ∉ leaving v) = [] :=
      List.filter_eq_nil_iff.mpr fun h member => by simp [leavingExtra member extra]
    exact List.perm_nil.mp (all ▸ servedRoundAt calm distinct served carried i)

theorem upRound (calm : v.isStaging = false) (up : v.hasLive = true)
    (some : (ofView policy log now v).starts ≠ [])
    (carried : Carried (ofView policy log now v) v v') : ∀ i < v'.target, v'.Served i := by
  intro i wanted
  rw [carriedTarget carried] at wanted
  have stops : (ofView policy log now v).stops = [] := by
    rw [← List.map_eq_nil_iff (f := Stop.guid), stopsLeaving calm, if_neg some]
  obtain ⟨brought, stay, here, number⟩ := roundAt calm carried i
  rw [sparesAll stops] at here
  by_cases served : v.Served i
  · obtain ⟨h, member, stays⟩ := served
    exact ⟨h, here.mem_iff.mpr (List.mem_append_left _ member), stays⟩
  · rw [if_pos ⟨wanted, View.isStartedOf served (.inr up)⟩] at number
    obtain ⟨h, rfl⟩ := List.length_eq_one_iff.mp number
    exact ⟨h, here.mem_iff.mpr (by simp), stay h (by simp)⟩

theorem sparseRound (calm : v.isStaging = false) (sparse : v.Sparse)
    (carried : Carried (ofView policy log now v) v v') :
    v'.Sparse ∧ ∀ i < v.target, v.Served i ∨ v.isStarted i = true → v'.Served i := by
  have round : ∀ i, ∃ brought : List Heartbeat, (∀ h ∈ brought, h.isEvacuating = false) ∧
      (v'.liveAt i).Perm (v.liveAt i ++ brought) ∧
      brought.length = if i < v.target ∧ v.isStarted i = true then 1 else 0 := by
    intro i
    have round := roundAt calm carried i
    rwa [sparesAll (noStopsSparse calm sparse)] at round
  refine ⟨⟨fun i => ?_, fun i h member => ?_, fun i extra => ?_⟩, fun i wanted either => ?_⟩
  · obtain ⟨brought, _, here, number⟩ := round i
    rw [here.length_eq, List.length_append, number]
    split
    · rename_i started
      have empty : v.liveAt i = [] := by
        refine List.eq_nil_iff_forall_not_mem.mpr fun h member => ?_
        have quiet := View.servedNotStarted ⟨h, member, sparse.staying i h member⟩
        simp [quiet] at started
      simp [empty]
    · exact sparse.few i
  · obtain ⟨brought, stay, here, _⟩ := round i
    rcases List.mem_append.mp (here.mem_iff.mp member) with old | new
    · exact sparse.staying i h old
    · exact stay h new
  · rw [carriedTarget carried] at extra
    obtain ⟨brought, _, here, number⟩ := round i
    rw [if_neg fun started => Nat.not_lt.mpr extra started.1] at number
    rw [sparse.none i extra, List.length_eq_zero_iff.mp number] at here
    exact List.perm_nil.mp here
  · obtain ⟨brought, stay, here, number⟩ := round i
    rcases either with ⟨h, member, stays⟩ | started
    · exact ⟨h, here.mem_iff.mpr (List.mem_append_left _ member), stays⟩
    · rw [if_pos ⟨wanted, started⟩] at number
      obtain ⟨h, rfl⟩ := List.length_eq_one_iff.mp number
      exact ⟨h, here.mem_iff.mpr (by simp), stay h (by simp)⟩

theorem downRounds {v'' : View} {log' : CrashLog} {now' : Nat} (calm : v.isStaging = false)
    (down : v.hasLive = false) (first : Carried (ofView policy log now v) v v')
    (second : Carried (ofView policy log' now' v') v' v'') : v''.Settled := by
  have empty : v.Sparse :=
    ⟨by simp [View.liveAtNone down], by simp [View.liveAtNone down], fun i _ => View.liveAtNone down i⟩
  obtain ⟨sparse, brought⟩ := sparseRound calm empty first
  have calm' : v'.isStaging = false := (carriedStaging first).trans calm
  obtain ⟨sparse', brought'⟩ := sparseRound calm' sparse second
  refine View.sparseServed sparse' fun i wanted => ?_
  rw [carriedTarget second] at wanted
  have bare : ¬ v.Served 0 := fun ⟨h, member, _⟩ => by simp [View.liveAtNone down] at member
  obtain ⟨h, member, _⟩ := brought 0 (carriedTarget first ▸ Nat.zero_lt_of_lt wanted)
    (.inr (View.isStartedOf bare (.inl rfl)))
  by_cases served : v'.Served i
  · exact brought' i wanted (.inl served)
  · exact brought' i wanted (.inr (View.isStartedOf served (.inr (View.hasLiveOf member))))

theorem twoRounds {v'' : View} {log' : CrashLog} {now' : Nat} (calm : v.isStaging = false)
    (distinct : (v.heartbeats.map Heartbeat.guid).Nodup)
    (first : Carried (ofView policy log now v) v v')
    (second : Carried (ofView policy log' now' v') v' v'') : v''.Settled := by
  have calm' : v'.isStaging = false := (carriedStaging first).trans calm
  by_cases up : v.hasLive = true
  · refine servedRound calm' first.distinct ?_ second
    by_cases quiet : (ofView policy log now v).starts = []
    · exact View.settledServed (servedRound calm distinct ((noStarts calm).mp quiet) first)
    · exact upRound calm up quiet first
  · exact downRounds calm (by simpa using up) first second

theorem roundsKeep {n : Nat} {w : View} (rounds : Rounds policy v n w)
    (distinct : (v.heartbeats.map Heartbeat.guid).Nodup) :
    w.desired = v.desired ∧ (w.heartbeats.map Heartbeat.guid).Nodup := by
  induction rounds with
  | none => exact ⟨rfl, distinct⟩
  | next _ carried ih => exact ⟨carried.desired.trans ih.1, carried.distinct⟩

theorem roundsOut (policy : Policy) (distinct : (v.heartbeats.map Heartbeat.guid).Nodup) (n : Nat) :
    ∃ w, Rounds policy v n w := by
  induction n with
  | zero => exact ⟨v, .none⟩
  | succ n ih =>
    obtain ⟨w, rounds⟩ := ih
    obtain ⟨w', carried⟩ := carriedOut (ofView policy (.ofList [] .zero) 0 w) (roundsKeep rounds distinct).2
    exact ⟨w', .next rounds carried⟩

theorem roundsSettle {n : Nat} {w : View} (calm : v.isStaging = false)
    (distinct : (v.heartbeats.map Heartbeat.guid).Nodup) (rounds : Rounds policy v (n + 2) w) :
    w.desired = v.desired ∧ w.Settled ∧
      ∀ log now, (ofView policy log now w).starts = [] ∧ (ofView policy log now w).stops = [] := by
  obtain ⟨desired, _⟩ := roundsKeep rounds distinct
  have settled : w.Settled := by
    cases rounds with
    | next before last =>
      cases before with
      | next earlier first =>
        obtain ⟨same, distinct'⟩ := roundsKeep earlier distinct
        exact twoRounds (by rwa [View.isStaging, same]) distinct' first last
  have calm' : w.isStaging = false := by rwa [View.isStaging, desired]
  refine ⟨desired, settled, fun log now => ?_⟩
  simpa [isEmpty] using (emptyIffSettled calm').mpr settled

def fallen : View :=
  ⟨⟨"web", "v1"⟩, some ⟨⟨"web", "v1"⟩, 3, .started, .staged, 0⟩,
    [⟨⟨"web", "v1"⟩, 0, "a", .crashed, 9⟩, ⟨⟨"web", "v1"⟩, 1, "b", .crashed, 9⟩]⟩

def raised (v : View) (added : List (Nat × String)) : View :=
  { v with heartbeats := v.heartbeats ++ added.map fun (i, guid) => ⟨v.app, i, guid, .running, 20⟩ }

theorem fallenSettles :
    Rounds {} fallen 2 (raised (raised fallen [(0, "c"), (2, "d")]) [(1, "e")]) ∧
      (raised (raised fallen [(0, "c"), (2, "d")]) [(1, "e")]).Settled := by
  have first : Carried (ofView {} (.ofList [] .zero) 10 fallen) fallen
      (raised fallen [(0, "c"), (2, "d")]) :=
    ⟨rfl, rfl, ⟨_, .cons ⟨rfl, rfl, rfl⟩ (.cons ⟨rfl, rfl, rfl⟩ .nil), .refl _⟩, by decide⟩
  have second : Carried (ofView {} (.ofList [] .zero) 20 (raised fallen [(0, "c"), (2, "d")]))
      (raised fallen [(0, "c"), (2, "d")])
      (raised (raised fallen [(0, "c"), (2, "d")]) [(1, "e")]) :=
    ⟨rfl, rfl, ⟨_, .cons ⟨rfl, rfl, rfl⟩ .nil, .refl _⟩, by decide⟩
  have rounds := Rounds.next (.next .none first) second
  exact ⟨rounds, (roundsSettle rfl (by decide) rounds).2.1⟩

end Proposal
end Fleet
