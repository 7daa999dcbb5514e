import Fleet.Dispatch
import Fleet.Proofs.Proposals
import Fleet.Proofs.Snapshots

/-! The verification before the sending goes by rules of its own, and yet lets pass all
that is proposed as long as nothing has changed: only a later report has an action refused. -/
namespace Fleet
namespace Proposal
variable {policy : Policy} {log : CrashLog} {now : Nat} {v : View}

theorem leavingSpared (distinct : (v.heartbeats.map Heartbeat.guid).Nodup) {h : Heartbeat}
    (member : h ∈ leaving v) : v.spares h = true := by
  rcases List.mem_append.mp member with extra | wanted
  · have both := (List.mem_filter.mp extra).2
    simp only [Bool.and_eq_true] at both
    simp only [View.spares, both.2, Bool.true_or]
  · obtain ⟨i, _, there⟩ := List.mem_flatMap.mp wanted
    obtain ⟨listed, rfl, _⟩ := View.memLiveAt.mp (memLeavingAt there)
    have served : v.Served h.index := by
      by_contra bare
      rw [leavingUnserved bare] at there
      cases there
    obtain ⟨k, everybody, _⟩ := survivorAt served
    have apart : k ≠ h := by
      rintro rfl
      have once := everybody.nodup_iff.mp ((List.Nodup.of_map _ distinct).filter _)
      exact (List.nodup_cons.mp once).1 there
    have survivor : k ∈ v.liveAt h.index := everybody.mem_iff.mpr List.mem_cons_self
    have other : (v.liveAt h.index).any (fun k => k.guid ≠ h.guid) = true := by
      refine List.any_eq_true.mpr ⟨k, survivor, decide_eq_true fun same => apart ?_⟩
      exact List.inj_on_of_nodup_map distinct (View.memLiveAt.mp survivor).1 listed same
    simp only [View.spares, other, Bool.or_true, Bool.true_or]

variable {desired : List Spec} {actual : List Heartbeat}

theorem startAdmitted (shown : v ∈ (Snapshot.ofState desired actual).apps) {i : Nat} {s : Start}
    (inside : i < v.target) (opens : Opens v i s)
    (verified : s.delivery.skipVerification = false) :
    s.rejection? (.ofState desired actual) = none := by
  have filed := Snapshot.appsFiled shown
  have within : ¬ v.target ≤ i := Nat.not_le.mpr inside
  simp [Start.rejection?, opens.app, opens.index, filed, Option.filter_some,
    View.targetWanted inside, within, opens.bare verified]

theorem stopAdmitted (shown : v ∈ (Snapshot.ofState desired actual).apps)
    (distinct : (v.heartbeats.map Heartbeat.guid).Nodup) (calm : v.isStaging = false)
    {h : Heartbeat} (leaves : h ∈ leaving v) {s : Stop} (stops : Stops policy h s) :
    s.rejection? (.ofState desired actual) = none := by
  obtain ⟨reason, sendOn, rfl⟩ := stops
  have filed := Snapshot.appsFiled shown
  have listed := leavingListed leaves
  have owned : h.app = v.app := by
    rw [(Snapshot.viewFiled filed).2] at listed
    simpa using (List.mem_filter.mp listed).2
  simp [Stop.rejection?, stopOf, delivery, owned, filed, View.byGuidOf distinct listed,
    Option.filter_some, leavingLive leaves, calm, leavingSpared distinct leaves]

theorem admittedFate {d : Delivery} {rejection : Option Rejection} (unsent : d.sentOn = 0)
    (passes : d.skipVerification = false → rejection = none) (later : Nat) :
    Dispatch.fate d later rejection = if d.sendOn ≤ later then .due else .waiting := by
  have current : d.isExpired later = false := by simp [Delivery.isExpired, Delivery.isSent, unsent]
  have unrefused : (!d.skipVerification && rejection.isSome) = false := by
    cases skips : d.skipVerification with
    | true => rfl
    | false => simp [passes skips]
  by_cases due : d.sendOn ≤ later <;>
    simp [Dispatch.fate, current, Delivery.isDue, due, unrefused]

theorem proposedAdmitted (shown : v ∈ (Snapshot.ofState desired actual).apps)
    (distinct : (v.heartbeats.map Heartbeat.guid).Nodup) (policy : Policy) (log : CrashLog)
    (now : Nat) :
    (∀ s ∈ (ofView policy log now v).starts,
      (s.delivery.skipVerification = false → s.rejection? (.ofState desired actual) = none) ∧
        ∀ later, Dispatch.startFate (.ofState desired actual) later s =
          if s.delivery.sendOn ≤ later then .due else .waiting) ∧
    ∀ s ∈ (ofView policy log now v).stops, s.rejection? (.ofState desired actual) = none ∧
      ∀ later, Dispatch.stopFate (.ofState desired actual) later s =
        if s.delivery.sendOn ≤ later then .due else .waiting := by
  constructor
  · intro s member
    obtain ⟨i, inside, opens⟩ := memStarts member
    have admitted := startAdmitted shown inside opens
    exact ⟨admitted, admittedFate opens.unsent admitted⟩
  · intro s member
    obtain ⟨calm, h, leaves, stops⟩ := memStops member
    have admitted := stopAdmitted shown distinct calm leaves stops
    have unsent : s.delivery.sentOn = 0 := by
      obtain ⟨reason, sendOn, rfl⟩ := stops
      rfl
    exact ⟨admitted, admittedFate unsent fun _ => admitted⟩

def strainedWants : List Spec :=
  [⟨⟨"api", "v1"⟩, 3, .started, .staged, 0⟩, ⟨⟨"web", "v1"⟩, 1, .started, .staged, 0⟩]

def apiReports : List Heartbeat :=
  [⟨⟨"api", "v1"⟩, 0, "a", .crashed, 9⟩, ⟨⟨"api", "v1"⟩, 1, "b", .running, 9⟩]

def webReports : List Heartbeat :=
  [⟨⟨"web", "v1"⟩, 0, "c", .starting, 9⟩, ⟨⟨"web", "v1"⟩, 0, "d", .evacuating, 9⟩,
    ⟨⟨"web", "v1"⟩, 0, "e", .running, 9⟩, ⟨⟨"web", "v1"⟩, 1, "f", .running, 9⟩]

def strained : Snapshot := .ofState strainedWants (apiReports ++ webReports)

theorem strainedAdmitted :
    (∃ v ∈ strained.apps, (v.heartbeats.map Heartbeat.guid).Nodup ∧
      (ofView {} (.ofList [] .zero) 10 v).starts.map Start.reason = [.crashed, .missing] ∧
      ∀ s ∈ (ofView {} (.ofList [] .zero) 10 v).starts,
        s.delivery.skipVerification = false → s.rejection? strained = none) ∧
    ∃ v ∈ strained.apps, (v.heartbeats.map Heartbeat.guid).Nodup ∧
      (ofView {} (.ofList [] .zero) 10 v).stops.map Stop.reason =
        [.extra, .evacuationComplete, .duplicate] ∧
      ∀ s ∈ (ofView {} (.ofList [] .zero) 10 v).stops, s.rejection? strained = none := by
  constructor
  · have shown : View.mk ⟨"api", "v1"⟩ strainedWants.head? apiReports ∈ strained.apps := by
      decide +kernel
    refine ⟨_, shown, by decide, by decide +kernel, fun s member => ?_⟩
    exact ((proposedAdmitted shown (by decide) {} _ 10).1 s member).1
  · have shown : View.mk ⟨"web", "v1"⟩ strainedWants.getLast? webReports ∈ strained.apps := by
      decide +kernel
    refine ⟨_, shown, by decide, by decide +kernel, fun s member => ?_⟩
    exact ((proposedAdmitted shown (by decide) {} _ 10).2 s member).1

end Proposal
end Fleet
