import Fleet.Proofs.Dismissals
import Fleet.Proofs.RunningIndices

/-! Proposals under another order of the reports. All that is asked of the reports is whether
there is one of a kind, how many there are, and which of them comes first in an order of its own
in which no two guids tie; so the order in which they stand decides nothing. Only the stops are
listed in it. -/
namespace Fleet

theorem arrangeSame {α : Type} {le : α → α → Bool} {l m : List α}
    (total : ∀ a b, le a b = false → le b a = true)
    (chain : ∀ a b c, le a b = true → le b c = true → le a c = true)
    (untied : ∀ a ∈ l, ∀ b ∈ l, le a b = true → le b a = true → a = b) (perm : l.Perm m) :
    arrange le l = arrange le m := by
  have left := arrangePerm le l
  have right := arrangePerm le m
  have alike := left.trans (perm.trans right.symm)
  apply alike.eq_of_pairwise
  · intro a b here there
    exact untied a (left.mem_iff.mp here) b (perm.mem_iff.mpr (right.mem_iff.mp there))
  · exact arrangeOrdered total chain l
  · exact arrangeOrdered total chain m

namespace View

structure Reordered (v w : View) : Prop where
  app : v.app = w.app
  desired : v.desired = w.desired
  heartbeats : v.heartbeats.Perm w.heartbeats

variable {v w : View}

theorem wantedCalm {i : Nat} (wanted : i < v.target) : v.isStaging = false := by
  cases spec : v.desired with
  | none => simp [isStaging, spec]
  | some d =>
    have started := targetWanted wanted
    simp only [isDesired, spec, Option.any_some, Spec.wanted, Bool.and_eq_true,
      decide_eq_true_eq] at started
    simp [isStaging, spec, Spec.staging, started.2]

section
variable (same : v.Reordered w)
include same

theorem targetReordered : v.target = w.target := by rw [target, target, same.desired]

theorem stagingReordered : v.isStaging = w.isStaging := by rw [isStaging, isStaging, same.desired]

theorem liveAtReordered (i : Nat) : (v.liveAt i).Perm (w.liveAt i) := same.heartbeats.filter _

theorem needReordered (i : Nat) : v.need i = w.need i := by
  have live := liveAtReordered same i
  have crash : v.hasCrashAt i = w.hasCrashAt i := same.heartbeats.any_eq
  have up : v.hasLive = w.hasLive := same.heartbeats.any_eq
  rw [need, need, live.isEmpty_eq, live.all_eq, crash, up]

theorem satisfiedReordered : v.satisfied = w.satisfied := by
  rw [satisfiedWanted, satisfiedWanted, targetReordered same]
  congr 1
  apply List.filter_congr
  intro i _
  have none := (liveAtReordered same i).isEmpty_eq
  rw [Bool.eq_iff_iff, List.isEmpty_iff, List.isEmpty_iff] at none
  simp [none]

theorem unsatisfiedReordered : v.unsatisfied = w.unsatisfied := by
  rw [unsatisfied, unsatisfied, targetReordered same, satisfiedReordered same]

end
end View

namespace Proposal
variable {policy : Policy} {log : CrashLog} {now : Nat} {v w : View}

theorem keepsBeforeBoth {a b : Heartbeat} (first : keepsBefore a b = true)
    (second : keepsBefore b a = true) : a.guid = b.guid := by
  rw [keepsBeforeIff] at first second
  have both : (compare a.guid b.guid).isLE = true → (compare b.guid a.guid).isLE = true →
      a.guid = b.guid := by
    rw [Std.OrientedOrd.eq_swap (a := b.guid)]
    cases order : compare a.guid b.guid <;> simp
    exact Std.LawfulEqOrd.eq_of_compare order
  grind

section
variable (same : v.Reordered w)
include same

theorem startReordered (i : Nat) : startFor policy log now v i = startFor policy log now w i := by
  rw [startFor, startFor, View.needReordered same, View.unsatisfiedReordered same, same.app]

theorem crashReordered (i : Nat) : crashFor log now v i = crashFor log now w i := by
  rw [crashFor, crashFor, View.needReordered same, same.app]

theorem extrasReordered : (extraStops policy now v).Perm (extraStops policy now w) := by
  rw [extraStops, extraStops, View.targetReordered same]
  exact (same.heartbeats.filter _).map _

section
variable (distinct : (v.heartbeats.map Heartbeat.guid).Nodup)
include distinct

theorem servingReordered (i : Nat) :
    arrange keepsBefore ((v.liveAt i).filter fun h => !h.isEvacuating) =
      arrange keepsBefore ((w.liveAt i).filter fun h => !h.isEvacuating) := by
  have listed : ∀ h ∈ (v.liveAt i).filter fun h => !h.isEvacuating, h ∈ v.heartbeats :=
    fun h member => (View.memLiveAt.mp (List.mem_of_mem_filter member)).1
  apply arrangeSame keepsBeforeTotal keepsBeforeChain
  · intro a here b there first second
    exact List.inj_on_of_nodup_map distinct (listed a here) (listed b there)
      (keepsBeforeBoth first second)
  · exact (View.liveAtReordered same i).filter _

theorem stopsAtReordered (i : Nat) : (stopsAt policy now v i).Perm (stopsAt policy now w i) := by
  have live := View.liveAtReordered same i
  have none := (live.filter fun h => !h.isEvacuating).isEmpty_eq
  simp only [stopsAt, servingReordered same distinct, none]
  split
  · exact .nil
  · exact ((live.filter _).map _).append_right _

theorem stopsForReordered : (stopsFor policy now v).Perm (stopsFor policy now w) := by
  rw [stopsFor, stopsFor, View.targetReordered same]
  apply (extrasReordered same).append
  apply List.Perm.flatMap_left
  intro i _
  exact stopsAtReordered same distinct i

theorem partsReordered (policy : Policy) (log : CrashLog) (now : Nat) :
    (ofView policy log now v).starts = (ofView policy log now w).starts ∧
      (ofView policy log now v).crashCounts = (ofView policy log now w).crashCounts ∧
      (ofView policy log now v).stops.Perm (ofView policy log now w).stops := by
  have starts : startFor policy log now v = startFor policy log now w := funext (startReordered same)
  have counts : crashFor log now v = crashFor log now w := funext (crashReordered same)
  have stops : (stopsFor policy now v).Perm (stopsFor policy now w) := stopsForReordered same distinct
  rw [ofView, ofView, View.stagingReordered same, View.targetReordered same, starts, counts]
  split
  · exact ⟨rfl, rfl, .nil⟩
  · dsimp only
    split
    · exact ⟨rfl, rfl, stops⟩
    · exact ⟨rfl, rfl, .nil⟩

end
end

def staying (p : Proposal) (v : View) (index : Nat) : List Heartbeat := (v.liveAt index).filter p.spares

theorem stayingReordered {p q : Proposal} (same : v.Reordered w) (stops : p.stops.Perm q.stops)
    (i : Nat) : (p.staying v i).Perm (q.staying w i) := by
  have spares : p.spares = q.spares := by
    funext h
    rw [Proposal.spares, Proposal.spares, (stops.map Stop.guid).contains_eq]
  rw [staying, staying, spares]
  exact (View.liveAtReordered same i).filter _

theorem survivorStays (distinct : (v.heartbeats.map Heartbeat.guid).Nodup)
    (quiet : (ofView policy log now v).starts = []) {i : Nat} (wanted : i < v.target) :
    ∃ h, (ofView policy log now v).staying v i = [h] := by
  have calm := View.wantedCalm wanted
  obtain ⟨h, only, _⟩ := survivorSpared distinct ((noStarts calm).mp quiet i wanted) wanted
  exact ⟨h, (sparedAt calm distinct quiet i).trans only⟩

structure Alike (v w : View) (p q : Proposal) : Prop where
  starts : p.starts = q.starts
  crashCounts : p.crashCounts = q.crashCounts
  stops : p.stops.Perm q.stops
  staying : ∀ i, (p.staying v i).Perm (q.staying w i)
  survivor : p.starts = [] → ∀ i < v.target, ∃ h, p.staying v i = [h] ∧ q.staying w i = [h]

theorem reorderedAlike (same : v.Reordered w) (distinct : (v.heartbeats.map Heartbeat.guid).Nodup)
    (policy : Policy) (log : CrashLog) (now : Nat) :
    Alike v w (ofView policy log now v) (ofView policy log now w) := by
  obtain ⟨starts, counts, stops⟩ := partsReordered same distinct policy log now
  have staying := stayingReordered same stops
  refine ⟨starts, counts, stops, staying, ?_⟩
  intro quiet i wanted
  obtain ⟨h, here⟩ := survivorStays distinct quiet wanted
  have there := (staying i).symm
  rw [here] at there
  exact ⟨h, here, List.perm_singleton.mp there⟩

def rivals : View :=
  ⟨⟨"web", "v1"⟩, some ⟨⟨"web", "v1"⟩, 1, .started, .staged, 0⟩,
    [⟨⟨"web", "v1"⟩, 1, "f", .running, 9⟩, ⟨⟨"web", "v1"⟩, 0, "a", .starting, 9⟩,
      ⟨⟨"web", "v1"⟩, 0, "d", .running, 9⟩, ⟨⟨"web", "v1"⟩, 0, "b", .evacuating, 9⟩,
      ⟨⟨"web", "v1"⟩, 0, "c", .running, 9⟩, ⟨⟨"web", "v1"⟩, 2, "e", .starting, 9⟩]⟩

def rivalsReversed : View := { rivals with heartbeats := rivals.heartbeats.reverse }

theorem rivalsAlike : rivals.Reordered rivalsReversed ∧
    (rivals.heartbeats.map Heartbeat.guid).Nodup ∧
    ∃ p q, p = ofView {} (.ofList [] .zero) 10 rivals ∧
      q = ofView {} (.ofList [] .zero) 10 rivalsReversed ∧ Alike rivals rivalsReversed p q ∧
      p.stops.map (fun s => (s.guid, s.delivery.sendOn)) =
        [("f", 10), ("e", 10), ("b", 10), ("d", 40), ("a", 70)] ∧
      q.stops.map (fun s => (s.guid, s.delivery.sendOn)) =
        [("e", 10), ("f", 10), ("b", 10), ("d", 40), ("a", 70)] := by
  have same : rivals.Reordered rivalsReversed := ⟨rfl, rfl, rivals.heartbeats.reverse_perm.symm⟩
  have distinct : (rivals.heartbeats.map Heartbeat.guid).Nodup := by decide
  exact ⟨same, distinct, _, _, rfl, rfl, reorderedAlike same distinct {} (.ofList [] .zero) 10,
    by decide +kernel, by decide +kernel⟩

end Proposal
end Fleet
