import Fleet.Proofs.Histories
import Fleet.Proofs.Snapshots

/-! Each stop is verified on its own against one snapshot: it passes if another instance
is live at the index, be that one about to be stopped as well. So a dispatch keeps an
instance at a served index exactly when only one is live there, or one of them has no
stop that is due and taken. -/
namespace Fleet
namespace Dispatch
variable {policy : Policy} {now : Nat} {accepts : Message → Bool} {g : Sight} {v : View} {i : Nat}

def Targeted (sent : List (Message × Bool)) (h : Heartbeat) : Prop :=
  ∃ m, (.stop m, true) ∈ sent ∧ m.app = h.app ∧ m.guid = h.guid

namespace Sight

def Leaving (g : Sight) (now : Nat) (accepts : Message → Bool) (h : Heartbeat) : Prop :=
  ∃ s ∈ g.stops, s.app = h.app ∧ s.guid = h.guid ∧ s.delivery.isExpired now = false ∧
    s.delivery.isDue now = true ∧ accepts (stopMessage g.snapshot s) = true

def KeepsOne (g : Sight) (now : Nat) (accepts : Message → Bool) (v : View) (i : Nat) : Prop :=
  (v.liveAt i).length = 1 ∨ ∃ h ∈ v.liveAt i, ¬ g.Leaving now accepts h

end Sight

theorem memAttemptedStop {m : StopMessage} : (.stop m, true) ∈ g.attempted policy now accepts ↔
    ∃ s ∈ g.dueStops now, stopMessage g.snapshot s = .stop m ∧ accepts (.stop m) = true := by
  simp only [Sight.attempted, attempts, List.mem_append, List.mem_map, Prod.mk.injEq]
  constructor
  · rintro (⟨s, _, same, _⟩ | ⟨s, member, same, took⟩)
    · cases same
    · exact ⟨s, member, same, same ▸ took⟩
  · rintro ⟨s, member, same, took⟩
    exact .inr ⟨s, member, same, same ▸ took⟩

theorem stopRejection (shown : g.snapshot.view? v.app = some v)
    (distinct : (v.heartbeats.map Heartbeat.guid).Nodup) (wanted : v.isDesired = true)
    (inside : i < v.target) {h : Heartbeat} (member : h ∈ v.liveAt i) {s : Stop}
    (app : s.app = v.app) (guid : s.guid = h.guid) :
    s.rejection? g.snapshot = none ↔
      (∃ k ∈ v.liveAt i, k.guid ≠ h.guid) ∨ h.isEvacuating = true := by
  obtain ⟨listed, here, live⟩ := View.memLiveAt.mp member
  have settled : v.isStaging = false := by
    cases spec : v.desired with
    | none => simp [View.isStaging, spec]
    | some d =>
      simp only [View.isDesired, spec, Option.any_some, Spec.wanted] at wanted
      simp_all [View.isStaging, Spec.staging]
  have within : ¬ v.target ≤ i := Nat.not_le.mpr inside
  simp only [Stop.rejection?, app, shown, guid, View.byGuidOf distinct listed, Option.filter_some, live,
    if_true, settled, Bool.false_eq_true, if_false, View.spares, here, within, decide_false,
    wanted, Bool.not_true, Bool.false_or, Bool.or_false]
  cases evacuating : h.isEvacuating <;> simp

theorem targetedLeaving {sent : List (Message × Bool)} (known : sent ⊆ g.attempted policy now accepts)
    {h : Heartbeat} (targeted : Targeted sent h) :
    ∃ s ∈ g.dueStops now, s.app = h.app ∧ s.guid = h.guid ∧
      accepts (stopMessage g.snapshot s) = true := by
  obtain ⟨m, member, app, guid⟩ := targeted
  obtain ⟨s, due, same, took⟩ := memAttemptedStop.mp (known member)
  cases same
  exact ⟨s, due, app, guid, took⟩

theorem dueLeaving {s : Stop} {h : Heartbeat} (due : s ∈ g.dueStops now) (app : s.app = h.app)
    (guid : s.guid = h.guid) (took : accepts (stopMessage g.snapshot s) = true) :
    g.Leaving now accepts h := by
  obtain ⟨read, fate⟩ := memDueStops.mp due
  obtain ⟨current, early, _⟩ := fateDue.mp fate
  exact ⟨s, read, app, guid, current, early, took⟩

structure Sight.Sane (g : Sight) : Prop where
  filed : ∀ v ∈ g.snapshot.apps, g.snapshot.view? v.app = some v
  owned : ∀ v ∈ g.snapshot.apps, ∀ h ∈ v.heartbeats, h.app = v.app
  distinct : ∀ v ∈ g.snapshot.apps, (v.heartbeats.map Heartbeat.guid).Nodup
  verified : ∀ s ∈ g.stops, s.delivery.skipVerification = false

theorem seenSane {s : Store} (regular : s.Regular) (seen : Seen policy now s g) : g.Sane where
  filed v member := by
    obtain ⟨desired, actual, _, _, same⟩ := seen.shows
    rw [same] at member ⊢
    exact Snapshot.appsFiled member
  owned v member h listed := by
    obtain ⟨desired, actual, _, _, same⟩ := seen.shows
    rw [same] at member
    obtain ⟨_, shown⟩ := Snapshot.viewFiled (Snapshot.appsFiled member)
    rw [shown] at listed
    simpa using (List.mem_filter.mp listed).2
  distinct v member := by
    have shows := seen.shows
    obtain ⟨desired, actual, _, _, same⟩ := seen.shows
    rw [same] at member
    exact Snapshot.guidsDistinct regular.actual shows (same ▸ Snapshot.appsFiled member)
  verified s member := by
    obtain ⟨k, row, found, reads⟩ := (Rows.memScan seen.stops).mp member
    obtain ⟨r, record, same⟩ := Queue.stops.readRecord reads
    exact Queue.stops.sameGuarded same (regular.stopsGuarded k row r found record)

section
variable (sane : g.Sane) (shown : v ∈ g.snapshot.apps) (wanted : v.isDesired = true)
  (inside : i < v.target)
include sane shown wanted inside

theorem rejectionAt {h : Heartbeat} (member : h ∈ v.liveAt i) {s : Stop} (app : s.app = h.app)
    (guid : s.guid = h.guid) : s.rejection? g.snapshot = none ↔
      (∃ k ∈ v.liveAt i, k.guid ≠ h.guid) ∨ h.isEvacuating = true := by
  have owned := sane.owned v shown h (View.memLiveAt.mp member).1
  exact stopRejection (sane.filed v shown) (sane.distinct v shown) wanted inside member
    (app.trans owned) guid

theorem loneUnstopped {h : Heartbeat} (alone : v.liveAt i = [h]) (stays : h.isEvacuating = false)
    {s : Stop} (due : s ∈ g.dueStops now) (app : s.app = h.app) : s.guid ≠ h.guid := by
  intro guid
  obtain ⟨read, fate⟩ := memDueStops.mp due
  obtain ⟨_, _, passed⟩ := fateDue.mp fate
  rw [sane.verified s read] at passed
  have accepted := passed.resolve_left Bool.false_ne_true
  have member : h ∈ v.liveAt i := by simp [alone]
  rcases (rejectionAt sane shown wanted inside member app guid).mp accepted with ⟨k, other, apart⟩ | gone
  · rw [alone, List.mem_singleton] at other
    exact apart (congrArg Heartbeat.guid other)
  · simp [stays] at gone

theorem leavingDue (several : (v.liveAt i).length ≠ 1) {h : Heartbeat} (member : h ∈ v.liveAt i)
    (leaving : g.Leaving now accepts h) : ∃ s ∈ g.dueStops now, s.app = h.app ∧ s.guid = h.guid ∧
      accepts (stopMessage g.snapshot s) = true := by
  have distinct := sane.distinct v shown
  have other : ∃ k ∈ v.liveAt i, k.guid ≠ h.guid := by
    by_contra none
    push Not at none
    have all : ∀ k ∈ v.liveAt i, k = h := fun k there =>
      List.inj_on_of_nodup_map distinct (View.memLiveAt.mp there).1 (View.memLiveAt.mp member).1
        (none k there)
    have lone : (v.liveAt i).Nodup := (List.Nodup.of_map _ distinct).filter _
    rw [List.eq_replicate_of_mem all, List.nodup_replicate] at lone
    have some := List.length_pos_of_mem member
    omega
  obtain ⟨s, read, app, guid, current, early, took⟩ := leaving
  have passed := (rejectionAt sane shown wanted inside member app guid).mpr (.inl other)
  exact ⟨s, memDueStops.mpr ⟨read, fateDue.mpr ⟨current, early, .inr passed⟩⟩, app, guid, took⟩

end

theorem servedIndexKept (ttl : Span) (deeds : List Deed)
    (seen : Seen policy now (.after policy ttl deeds) g) (shown : v ∈ g.snapshot.apps)
    (wanted : v.isDesired = true) (inside : i < v.target)
    (served : ∃ h ∈ v.liveAt i, h.isEvacuating = false) (accepts : Message → Bool) :
    (g.KeepsOne now accepts v i → ∃ h ∈ v.liveAt i, ¬ Targeted
      (dispatch policy now (.taking accepts) ⟨.after policy ttl deeds, []⟩).2.sent h) ∧
    ∀ answer, (dispatch policy now (.taking accepts) ⟨.after policy ttl deeds, []⟩).1 = .ok answer →
      (∃ h ∈ v.liveAt i, ¬ Targeted
        (dispatch policy now (.taking accepts) ⟨.after policy ttl deeds, []⟩).2.sent h) →
          g.KeepsOne now accepts v i := by
  have sane := seenSane (Store.afterRegular policy ttl deeds) seen
  obtain ⟨tried, sent, first, all⟩ :=
    @dispatchTried policy now accepts ⟨.after policy ttl deeds, []⟩ g seen
  rw [List.nil_append] at sent
  rw [sent]
  constructor
  · rintro (one | ⟨h, member, remains⟩)
    · obtain ⟨h, alone⟩ := List.length_eq_one_iff.mp one
      obtain ⟨k, member, stays⟩ := served
      rw [alone, List.mem_singleton] at member
      subst member
      refine ⟨k, by simp [alone], fun targeted => ?_⟩
      obtain ⟨s, due, app, guid, _⟩ := targetedLeaving first.subset targeted
      exact loneUnstopped sane shown wanted inside alone stays due app guid
    · refine ⟨h, member, fun targeted => remains ?_⟩
      obtain ⟨s, due, app, guid, took⟩ := targetedLeaving first.subset targeted
      exact dueLeaving due app guid took
  · rintro answer ended ⟨h, member, untargeted⟩
    by_contra emptied
    obtain ⟨several, everybody⟩ := not_or.mp emptied
    push Not at everybody
    obtain ⟨s, due, app, guid, took⟩ :=
      leavingDue sane shown wanted inside several member (everybody h member)
    refine untargeted ⟨.ofStop s (runningOf g.snapshot s.app), ?_, app, guid⟩
    rw [all answer ended]
    exact memAttemptedStop.mpr ⟨s, due, rfl, took⟩

def web : App := ⟨"web", "v1"⟩

def tripled : List Deed :=
  [.sync [⟨web, 1, .started, .staged, 0⟩] 1000,
   .flush ⟨[⟨web, 0, "a", .running, 1000⟩, ⟨web, 0, "b", .running, 1000⟩,
     ⟨web, 0, "c", .running, 1000⟩], 1000⟩,
   .analysis 1000 []]

def bereft : List Deed :=
  tripled ++ [.sync [⟨web, 1, .started, .staged, 0⟩] 1060,
    .flush ⟨[⟨web, 0, "a", .crashed, 1060⟩, ⟨web, 0, "b", .running, 1060⟩,
      ⟨web, 0, "c", .running, 1060⟩], 1060⟩]

def tripledSight (a : Heartbeat) (reportedAt : Nat) : Sight where
  starts := []
  stops := [⟨web, 0, "b", .duplicate, ⟨1, 1030, 0, 30, false⟩⟩,
    ⟨web, 0, "c", .duplicate, ⟨2, 1060, 0, 30, false⟩⟩]
  snapshot := .ofState [⟨web, 1, .started, .staged, 0⟩]
    [a, ⟨web, 0, "b", .running, reportedAt⟩, ⟨web, 0, "c", .running, reportedAt⟩]

def tripledView (a : Heartbeat) (reportedAt : Nat) : View where
  app := web
  desired := some ⟨web, 1, .started, .staged, 0⟩
  heartbeats := [a, ⟨web, 0, "b", .running, reportedAt⟩, ⟨web, 0, "c", .running, reportedAt⟩]

theorem tripledSeen : Seen {} 1030 (.after {} (.ofSecs 30) tripled)
    (tripledSight ⟨web, 0, "a", .running, 1000⟩ 1000) where
  fresh := ⟨by decide, by decide⟩
  starts := by decide +kernel
  stops := by decide +kernel
  shows := ⟨_, _, by decide +kernel, by decide +kernel, rfl⟩

theorem bereftSeen : Seen {} 1060 (.after {} (.ofSecs 30) bereft)
    (tripledSight ⟨web, 0, "a", .crashed, 1060⟩ 1060) where
  fresh := ⟨by decide, by decide⟩
  starts := by decide +kernel
  stops := by decide +kernel
  shows := ⟨_, _, by decide +kernel, by decide +kernel, rfl⟩

theorem tripledKept : Seen {} 1030 (.after {} (.ofSecs 30) tripled)
      (tripledSight ⟨web, 0, "a", .running, 1000⟩ 1000) ∧
    ∃ h ∈ (tripledView ⟨web, 0, "a", .running, 1000⟩ 1000).liveAt 0, ¬ Targeted
      (dispatch {} 1030 (.taking fun _ => true) ⟨.after {} (.ofSecs 30) tripled, []⟩).2.sent h := by
  refine ⟨tripledSeen, (servedIndexKept (.ofSecs 30) tripled tripledSeen (by decide +kernel) rfl
    (by decide) ⟨⟨web, 0, "a", .running, 1000⟩, by decide, rfl⟩ fun _ => true).1 (.inr ?_)⟩
  refine ⟨⟨web, 0, "a", .running, 1000⟩, by decide, ?_⟩
  rintro ⟨s, member, _, guid, _⟩
  simp only [tripledSight, List.mem_cons, List.not_mem_nil, or_false] at member
  rcases member with rfl | rfl <;> exact absurd guid (by decide)

/-- Both stops that are left pass, as either instance is live beside the other. -/
theorem bereftEmptied : Seen {} 1060 (.after {} (.ofSecs 30) bereft)
      (tripledSight ⟨web, 0, "a", .crashed, 1060⟩ 1060) ∧
    ∃ v ∈ (tripledSight ⟨web, 0, "a", .crashed, 1060⟩ 1060).snapshot.apps,
      v.isDesired = true ∧ 0 < v.target ∧ (∃ h ∈ v.liveAt 0, h.isEvacuating = false) ∧
      ¬ ∃ h ∈ v.liveAt 0, ¬ Targeted
        (dispatch {} 1060 (.taking fun _ => true) ⟨.after {} (.ofSecs 30) bereft, []⟩).2.sent h := by
  refine ⟨bereftSeen, tripledView ⟨web, 0, "a", .crashed, 1060⟩ 1060, by decide +kernel, rfl, by decide,
    ⟨⟨web, 0, "b", .running, 1060⟩, by decide, rfl⟩, ?_⟩
  rintro ⟨h, member, untargeted⟩
  have stopped : (dispatch {} 1060 (.taking fun _ => true) ⟨.after {} (.ofSecs 30) bereft, []⟩).2.sent =
      [(.stop ⟨web, 0, "b", true, 1, .ofList [(0, 2)]⟩, true),
        (.stop ⟨web, 0, "c", true, 2, .ofList [(0, 2)]⟩, true)] := by
    decide +kernel
  rw [stopped] at untargeted
  have live : (tripledView ⟨web, 0, "a", .crashed, 1060⟩ 1060).liveAt 0 =
      [⟨web, 0, "b", .running, 1060⟩, ⟨web, 0, "c", .running, 1060⟩] := by decide
  rw [live] at member
  simp only [List.mem_cons, List.not_mem_nil, or_false] at member
  rcases member with rfl | rfl
  · exact untargeted ⟨_, List.mem_cons_self, rfl, rfl⟩
  · exact untargeted ⟨_, List.mem_cons_of_mem _ List.mem_cons_self, rfl, rfl⟩

end Dispatch
end Fleet
