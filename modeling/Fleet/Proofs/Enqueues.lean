import Fleet.Proofs.Keys
import Fleet.Proofs.Reachability
import Fleet.Proofs.Repetition
import Fleet.Proofs.Snapshots

/-! What an analysis adds to the pending tables. An index is wanted of one application a
key at most, as the wanted state is filed under the same keys, so no two starts of a cycle
share a place whatever commas the names hold; two stops do only if two applications
report one guid. -/
namespace Fleet

def Start.unnumbered (a : Start) : Start := { a with delivery := { a.delivery with messageId := 0 } }

def Stop.unnumbered (a : Stop) : Stop := { a with delivery := { a.delivery with messageId := 0 } }

theorem Start.unnumberedKey {a b : Start} (same : a.unnumbered = b.unnumbered) : a.key = b.key := by
  have key := congrArg Start.key same
  exact key

theorem Start.unnumberedApp {a b : Start} (same : a.unnumbered = b.unnumbered) : a.app = b.app := by
  have apps := congrArg Start.app same
  exact apps

theorem Start.unnumberedIndex {a b : Start} (same : a.unnumbered = b.unnumbered) : a.index = b.index := by
  have indices := congrArg Start.index same
  exact indices

theorem Stop.unnumberedKey {a b : Stop} (same : a.unnumbered = b.unnumbered) : a.key = b.key := by
  have key := congrArg Stop.key same
  exact key

theorem Stop.unnumberedApp {a b : Stop} (same : a.unnumbered = b.unnumbered) : a.app = b.app := by
  have apps := congrArg Stop.app same
  exact apps

namespace Rows
variable {α : Type} {key : α → String} {t t' : Rows α} {added : List α}

structure Gains (key : α → String) (t t' : Rows α) (added : List α) : Prop where
  apart : (added.map key).Nodup
  free : ∀ a ∈ added, t.get? (key a) = none
  held : ∀ k row, t'.get? k = some row ↔
    t.get? k = some row ∨ ∃ a ∈ added, key a = k ∧ row = .held a

theorem getPutHeld (apart : (added.map key).Nodup) {a : α} (member : a ∈ added) :
    (put key t added).get? (key a) = some (.held a) := by
  obtain ⟨b, there, same, found⟩ := getPutSome (t := t) ⟨a, member, rfl⟩
  rwa [List.inj_on_of_nodup_map apart there member same] at found

theorem putGains (apart : (added.map key).Nodup) (free : ∀ a ∈ added, t.get? (key a) = none) :
    Gains key t (put key t added) added := by
  refine ⟨apart, free, fun k row => ?_⟩
  by_cases written : ∃ a ∈ added, key a = k
  · obtain ⟨a, member, rfl⟩ := written
    rw [getPutHeld apart member, free a member]
    constructor
    · rintro ⟨⟩
      exact .inr ⟨a, member, rfl, rfl⟩
    · rintro (⟨⟨⟩⟩ | ⟨b, there, same, rfl⟩)
      rw [List.inj_on_of_nodup_map apart there member same]
  · rw [getPutOther fun r member same => written ⟨r, member, same⟩]
    refine ⟨.inl, fun either => either.resolve_right ?_⟩
    rintro ⟨a, member, same, _⟩
    exact written ⟨a, member, same⟩

theorem scanFree [Record α] (own : Own key t) {l : List α} (read : t.scan = .ok l) {k : String} :
    k ∉ l.map key ↔ t.get? k = none := by
  rw [ownScan own read, memKeys, not_exists, Option.eq_none_iff_forall_ne_some]

end Rows

def Store.GuidsApart (s : Store) (now : Nat) : Prop :=
  ∀ actual, s.actualState now = .ok actual →
    ∀ h ∈ actual, ∀ k ∈ actual, h.guid = k.guid → h.app = k.app

namespace Analysis
variable {policy : Policy} {now : Nat} {log : CrashLog} {desired : List Spec}
  {actual : List Heartbeat}

theorem memProposed {α : Type} {part : Proposal → List α} {s : Snapshot} {a : α} :
    a ∈ (proposals policy log now s).flatMap part ↔
      ∃ v ∈ s.apps, v.isStaging = false ∧ a ∈ part (Proposal.ofView policy log now v) := by
  simp only [proposals, List.flatMap_map, List.mem_flatMap, List.mem_filter, Bool.not_eq_true',
    and_assoc]

theorem proposedInOrder :
    ((proposals policy log now (.ofState desired actual)).flatMap Proposal.starts).Pairwise
      Start.Before := by
  rw [proposals, List.flatMap_map, List.pairwise_flatMap]
  refine ⟨fun v _ => Proposal.startsInOrder policy log now v, ?_⟩
  refine ((Snapshot.appsInOrder desired actual).filter _).imp fun {v v'} below a one b two => ?_
  obtain ⟨_, _, opens⟩ := Proposal.memStarts one
  obtain ⟨_, _, opens'⟩ := Proposal.memStarts two
  exact .inl (by rwa [opens.app, opens'.app])

theorem proposedWanted {a : Start}
    (member : a ∈ (proposals policy log now (.ofState desired actual)).flatMap Proposal.starts) :
    ∃ spec ∈ desired, spec.app = a.app := by
  obtain ⟨v, shown, _, proposed⟩ := memProposed.mp member
  obtain ⟨i, inside, opens⟩ := Proposal.memStarts proposed
  have wanted := View.targetWanted inside
  have found := Snapshot.viewDesired (Snapshot.appsFiled shown)
  cases spec : v.desired with
  | none => simp [View.isDesired, spec] at wanted
  | some d =>
    rw [spec] at found
    have listed := List.mem_filter.mp (List.mem_of_getLast? found.symm)
    exact ⟨d, listed.1, (of_decide_eq_true listed.2).trans opens.app.symm⟩

theorem proposedKeysApart
    (apart : ∀ spec ∈ desired, ∀ spec' ∈ desired, spec.app.key = spec'.app.key → spec = spec') :
    (((proposals policy log now (.ofState desired actual)).flatMap Proposal.starts).map
      Start.key).Nodup := by
  refine List.pairwise_map.mpr (proposedInOrder.imp_of_mem fun {a b} one two before same => ?_)
  obtain ⟨keys, index⟩ := App.indexKeySame same
  obtain ⟨spec, member, app⟩ := proposedWanted one
  obtain ⟨spec', member', app'⟩ := proposedWanted two
  have sameSpec : spec = spec' := apart spec member spec' member' (by rw [app, app', keys])
  have apps : a.app = b.app := by rw [← app, ← app', sameSpec]
  rcases before with below | ⟨_, less⟩
  · simp [apps] at below
  · omega

theorem proposedStopGuid {v : View} {a : Stop} (member : a ∈ (Proposal.ofView policy log now v).stops) :
    ∃ h ∈ v.heartbeats, h.isLive = true ∧ a.guid = h.guid ∧ a.app = h.app := by
  obtain ⟨_, h, leaves, reason, sendOn, rfl⟩ := Proposal.memStops member
  exact ⟨h, Proposal.leavingListed leaves, Proposal.leavingLive leaves, rfl, rfl⟩

theorem proposedStopsApart
    (apart : ∀ h ∈ actual, ∀ k ∈ actual, h.guid = k.guid → h.app = k.app)
    (distinct : ∀ v ∈ (Snapshot.ofState desired actual).apps,
      (v.heartbeats.map Heartbeat.guid).Nodup) :
    (((proposals policy log now (.ofState desired actual)).flatMap Proposal.stops).map
      Stop.key).Nodup := by
  rw [proposals, List.flatMap_map, List.map_flatMap, List.nodup_flatMap]
  refine ⟨fun v shown => Proposal.stopsOnce (distinct v (List.mem_of_mem_filter shown)) policy log now, ?_⟩
  refine ((Snapshot.appsInOrder desired actual).filter _).imp_of_mem fun {v v'} one two below => ?_
  intro guid here there
  obtain ⟨a, proposed, rfl⟩ := List.mem_map.mp here
  obtain ⟨b, proposed', same⟩ := List.mem_map.mp there
  obtain ⟨h, listed, _, guid, _⟩ := proposedStopGuid proposed
  obtain ⟨k, listed', _, guid', _⟩ := proposedStopGuid proposed'
  rw [(Snapshot.viewFiled (Snapshot.appsFiled (List.mem_of_mem_filter one))).2, List.mem_filter] at listed
  rw [(Snapshot.viewFiled (Snapshot.appsFiled (List.mem_of_mem_filter two))).2, List.mem_filter] at listed'
  have apps : h.app = k.app := apart h listed.1 k listed'.1 (guid.symm.trans (same.symm.trans guid'))
  rw [← of_decide_eq_true listed.2, ← of_decide_eq_true listed'.2, apps] at below
  simp at below

theorem numberStartsRest (first : Nat) (l : List Start) :
    (numberStarts first l).map Start.unnumbered = l.map Start.unnumbered := by
  induction l generalizing first with
  | nil => rfl
  | cons a l ih => simp [numberStarts, ih, Start.unnumbered]

theorem numberStopsRest (first : Nat) (l : List Stop) :
    (numberStops first l).map Stop.unnumbered = l.map Stop.unnumbered := by
  induction l generalizing first with
  | nil => rfl
  | cons a l ih => simp [numberStops, ih, Stop.unnumbered]

theorem numberStartsOrder {first : Nat} {l : List Start} (ordered : l.Pairwise Start.Before) :
    (numberStarts first l).Pairwise Start.Before := by
  have rest : (l.map Start.unnumbered).Pairwise Start.Before := List.pairwise_map.mpr ordered
  rw [← numberStartsRest first] at rest
  have ordered' := List.pairwise_map.mp rest
  exact ordered'

theorem numberedStarts {last : Nat} {d d' : Decision} (numbers : Numbers last d d') {u : Start} :
    (∃ a ∈ d'.starts, a.unnumbered = u) ↔ ∃ a ∈ d.starts, a.unnumbered = u := by
  rw [← List.mem_map, ← List.mem_map, numbers.starts, numberStartsRest]

theorem numberedStops {last : Nat} {d d' : Decision} (numbers : Numbers last d d') {u : Stop} :
    (∃ a ∈ d'.stops, a.unnumbered = u) ↔ ∃ a ∈ d.stops, a.unnumbered = u := by
  rw [← List.mem_map, ← List.mem_map, numbers.stops, numberStopsRest]

section
variable {failing : List String} {s s' : Store} {r : Report} {g : Sight} {d : Decision}

theorem draftedStarts (keyed : s.Keyed) (seen : Seen policy now s g) {a : Start} :
    a ∈ (g.draft policy now).starts ↔
      a ∈ (g.proposals policy now).flatMap Proposal.starts ∧ s.starts.get? a.key = none := by
  obtain ⟨pending, read, keys⟩ := seen.starts
  rw [Sight.draft, decidedStarts, List.mem_filter, keys, decide_eq_true_eq,
    Rows.scanFree keyed.starts read]

theorem draftedStops (keyed : s.Keyed) (seen : Seen policy now s g) {a : Stop} :
    a ∈ (g.draft policy now).stops ↔
      a ∈ (g.proposals policy now).flatMap Proposal.stops ∧ s.stops.get? a.key = none := by
  obtain ⟨pending, read, keys⟩ := seen.stops
  rw [Sight.draft, decidedStops, List.mem_filter, keys, decide_eq_true_eq,
    Rows.scanFree keyed.stops read]

variable (keyed : s.Keyed) (done : Concludes policy now failing s s' r g d)
include keyed done

theorem startsFree : ∀ a ∈ d.starts, s.starts.get? a.key = none := by
  intro a member
  obtain ⟨b, drafted, same⟩ := (numberedStarts done.numbers).mp ⟨a, member, rfl⟩
  exact Start.unnumberedKey same ▸ ((draftedStarts keyed done.seen).mp drafted).2

theorem stopsFree : ∀ a ∈ d.stops, s.stops.get? a.key = none := by
  intro a member
  obtain ⟨b, drafted, same⟩ := (numberedStops done.numbers).mp ⟨a, member, rfl⟩
  exact Stop.unnumberedKey same ▸ ((draftedStops keyed done.seen).mp drafted).2

theorem startsGained : Rows.Gains Start.key s.starts s'.starts d.starts := by
  have table : s'.starts = Rows.put Start.key s.starts d.starts := by rw [done.store]; rfl
  rw [table]
  refine Rows.putGains ?_ (startsFree keyed done)
  obtain ⟨desired, actual, read, _, shows⟩ := done.seen.shows
  rw [done.numbers.starts, numberStartsKeys, Sight.draft, decidedStarts]
  refine List.Nodup.sublist (List.filter_sublist.map _) ?_
  rw [Sight.proposals, shows]
  exact proposedKeysApart fun spec member spec' member' => Store.specOf keyed read member member'

theorem stopsGained (apart : s.GuidsApart now) : Rows.Gains Stop.key s.stops s'.stops d.stops := by
  have table : s'.stops = Rows.put Stop.key s.stops d.stops := by rw [done.store]; rfl
  rw [table]
  refine Rows.putGains ?_ (stopsFree keyed done)
  have seen := done.seen.shows
  obtain ⟨desired, actual, _, read, shows⟩ := done.seen.shows
  rw [done.numbers.stops, numberStopsKeys, Sight.draft, decidedStops]
  refine List.Nodup.sublist (List.filter_sublist.map _) ?_
  rw [Sight.proposals, shows]
  refine proposedStopsApart (apart actual read) fun v shown => ?_
  exact Snapshot.guidsDistinct keyed.actual (shows ▸ seen) (Snapshot.appsFiled shown)

end

structure Enqueues (policy : Policy) (now : Nat) (s s' : Store) (r : Report) (g : Sight)
    (starts : List Start) (stops : List Stop) : Prop where
  startsGained : Rows.Gains Start.key s.starts s'.starts starts
  stopsGained : Rows.Gains Stop.key s.stops s'.stops stops
  startCount : starts.length = r.startsEnqueued
  stopCount : stops.length = r.stopsEnqueued
  ids : starts.map (·.delivery.messageId) ++ stops.map (·.delivery.messageId) =
    List.range' (s.lastId + 1) (r.startsEnqueued + r.stopsEnqueued)
  ordered : starts.Pairwise Start.Before
  last : s'.lastId = s.lastId + (r.startsEnqueued + r.stopsEnqueued)
  startsDrafted : starts.map Start.unnumbered =
    ((g.proposals policy now).flatMap Proposal.starts |>.filter (·.key ∉ s.starts.keys)).map Start.unnumbered
  stopsDrafted : stops.map Stop.unnumbered =
    ((g.proposals policy now).flatMap Proposal.stops |>.filter (·.key ∉ s.stops.keys)).map Stop.unnumbered
  startsProposed : r.startsEnqueued + r.startsDeduplicated =
    ((g.proposals policy now).flatMap Proposal.starts).length
  stopsProposed : r.stopsEnqueued + r.stopsDeduplicated =
    ((g.proposals policy now).flatMap Proposal.stops).length

theorem concludedEnqueues {failing : List String} {s s' : Store} {r : Report} {g : Sight} {d : Decision}
    (keyed : s.Keyed) (apart : s.GuidsApart now) (done : Concludes policy now failing s s' r g d) :
    Enqueues policy now s s' r g d.starts d.stops := by
  have numbers := done.numbers
  obtain ⟨reaped, rfl⟩ := done.report
  obtain ⟨starts, startsRead, startKeys⟩ := done.seen.starts
  obtain ⟨stops, stopsRead, stopKeys⟩ := done.seen.stops
  obtain ⟨startsProposed, stopsProposed⟩ := reportDivided numbers reaped
  refine ⟨startsGained keyed done, stopsGained keyed done apart, rfl, rfl, ?_, ?_, ?_, ?_, ?_,
    startsProposed, stopsProposed⟩
  · change _ = List.range' _ (d.starts.length + d.stops.length)
    rw [numbers.starts, numbers.stops, numberStartsIds, numberStopsIds, numberStartsLength,
      numberStopsLength, List.range'_append_1]
  · obtain ⟨desired, actual, _, _, shows⟩ := done.seen.shows
    rw [numbers.starts, Sight.draft, decidedStarts, Sight.proposals, shows]
    exact numberStartsOrder (proposedInOrder.filter _)
  · rw [done.store]
    rfl
  · rw [numbers.starts, numberStartsRest, Sight.draft, decidedStarts, startKeys,
      Rows.ownScan keyed.starts startsRead]
  · rw [numbers.stops, numberStopsRest, Sight.draft, decidedStops, stopKeys,
      Rows.ownScan keyed.stops stopsRead]

theorem reportEnqueued {ttl : Span} {failing : List String} {w w' : World} {r : Report}
    (reachable : w.store.Reachable ttl) (apart : w.store.GuidsApart now)
    (ended : analyze policy now { failing } w = (.ok (.ok r), w')) :
    ∃ g starts stops, Seen policy now w.store g ∧
      Enqueues policy now w.store w'.store r g starts stops := by
  obtain ⟨g, d, done⟩ := analyzeConcludes ended
  exact ⟨g, d.starts, d.stops, done.seen,
    concludedEnqueues (Store.reachableKeyed reachable) apart done⟩

def adjoining : Store :=
  let one : App := ⟨"a", "b"⟩
  let two : App := ⟨"a,b", "0"⟩
  let web : App := ⟨"web", "v1"⟩
  .after {} (.ofSecs 30) [
    .sync [⟨one, 1, .started, .staged, 0⟩] 1000,
    .flush ⟨[⟨web, 0, "x", .running, 1000⟩, ⟨web, 1, "y", .running, 1000⟩], 1000⟩,
    .sync [⟨one, 1, .started, .staged, 0⟩, ⟨web, 1, .started, .staged, 0⟩] 1000,
    .analysis 1000 [],
    .sync [⟨one, 2, .started, .staged, 0⟩, ⟨two, 2, .started, .staged, 0⟩] 1000]

theorem adjoiningEnqueued : ∃ w',
    analyze {} 1000 {} ⟨adjoining, []⟩ = (.ok (.ok ⟨3, 0, 3, 1, 1, 1, 0, 0⟩), w') ∧
      ∃ g starts stops, Seen {} 1000 adjoining g ∧
        Enqueues {} 1000 adjoining w'.store ⟨3, 0, 3, 1, 1, 1, 0, 0⟩ g starts stops := by
  have reported : (analyze {} 1000 {} ⟨adjoining, []⟩).1 = .ok (.ok ⟨3, 0, 3, 1, 1, 1, 0, 0⟩) := by
    decide +kernel
  have ended : analyze {} 1000 {} ⟨adjoining, []⟩ = (.ok (.ok ⟨3, 0, 3, 1, 1, 1, 0, 0⟩), _) :=
    Prod.ext reported rfl
  have apart : adjoining.GuidsApart 1000 := by
    intro actual read
    have reads : adjoining.actualState 1000 = .ok [⟨⟨"web", "v1"⟩, 0, "x", .running, 1000⟩,
      ⟨⟨"web", "v1"⟩, 1, "y", .running, 1000⟩] := by decide +kernel
    cases reads.symm.trans read
    decide
  have reachable : adjoining.Reachable (.ofSecs 30) := Store.afterReachable _ _ _
  have enqueued := reportEnqueued (w := ⟨adjoining, []⟩) reachable apart ended
  exact ⟨_, ended, enqueued⟩

end Analysis
end Fleet
