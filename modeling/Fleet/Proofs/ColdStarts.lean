import Fleet.Proofs.Backoffs
import Fleet.Proofs.Separation

/-! How a crashed index waits while its application is down. An analysis enqueues a start for
it once any instance of the application is alive, at whatever index, and not before; index 0
is the only one that never waits. -/
namespace Fleet

def Deed.shown? (policy : Policy) (s : Store) (app : App) : Deed → Option View
  | .analysis now failing =>
      match ((Analysis.look policy now).run.run { failing } ⟨s, []⟩).1 with
      | .ok (.ok g) => g.snapshot.view? app
      | _ => none
  | _ => none

namespace View
variable {v : View} {i : Nat}

structure Down (v : View) (index : Nat) : Prop where
  crashed : v.hasCrashAt index = true
  bare : v.liveAt index = []

theorem downStarted (down : v.Down i) : v.isStarted i = true ↔ i = 0 ∨ v.hasLive = true := by
  constructor
  · intro started
    by_contra cold
    obtain ⟨higher, dead⟩ := not_or.mp cold
    have gated : v.need i = .gated := by simp [need, down.bare, down.crashed, higher, dead]
    simp [isStarted, gated] at started
  · refine isStartedOf ?_
    rintro ⟨h, member, _⟩
    simp [down.bare] at member

end View

theorem Proposal.startedAt {policy : Policy} {log : CrashLog} {now : Nat} {v : View} {i : Nat} :
    (∃ a ∈ (ofView policy log now v).starts, a.index = i) ↔
      v.isStaging = false ∧ i < v.target ∧ v.isStarted i = true := by
  rw [← List.mem_map]
  cases calm : v.isStaging with
  | true => simp [ofView, calm, nothing]
  | false => simp [startIndices calm]

namespace Analysis
variable {policy : Policy} {now : Nat} {failing : List String} {s s' : Store} {r : Report}
  {g : Sight} {d : Decision} {app : App} {i : Nat} {v : View}

def Enqueued (s s' : Store) (app : App) (index : Nat) : Prop :=
  s.starts.get? (app.indexKey index) = none ∧
    ∃ a : Start, s'.starts.get? (app.indexKey index) = some (.held a) ∧ a.app = app ∧ a.index = index

theorem shownSeen (shown : (Deed.analysis now failing).shown? policy s app = some v)
    (seen : Seen policy now s g) : g.snapshot.view? app = some v := by
  simp only [Deed.shown?] at shown
  split at shown
  · rename_i g' looked
    have seen' := lookedSeen (Prod.ext looked rfl)
    rwa [Cycle.showsUnique seen.shows seen'.shows]
  · cases shown

theorem enqueuedDecided (keyed : s.Keyed) (done : Concludes policy now failing s s' r g d) :
    Enqueued s s' app i ↔ ∃ a ∈ d.starts, a.app = app ∧ a.index = i := by
  have gains := startsGained keyed done
  constructor
  · rintro ⟨free, a, found, named, index⟩
    rcases (gains.held _ _).mp found with old | ⟨b, there, _, same⟩
    · rw [free] at old
      cases old
    · cases same
      exact ⟨a, there, named, index⟩
  · rintro ⟨a, there, rfl, rfl⟩
    exact ⟨gains.free a there, a, (gains.held _ _).mpr (.inr ⟨a, there, rfl, rfl⟩), rfl, rfl⟩

theorem enqueuedProposed (keyed : s.Keyed) (done : Concludes policy now failing s s' r g d) :
    Enqueued s s' app i ↔ s.starts.get? (app.indexKey i) = none ∧
      ∃ a ∈ (g.proposalFor policy now app).starts, a.index = i := by
  rw [enqueuedDecided keyed done]
  constructor
  · rintro ⟨a, there, rfl, rfl⟩
    obtain ⟨b, drafted, same⟩ := (numberedStarts done.numbers).mp ⟨a, there, rfl⟩
    obtain ⟨proposed, free⟩ := (draftedStarts keyed done.seen).mp drafted
    refine ⟨?_, b, (memStartsFor done.seen).mpr ⟨proposed, Start.unnumberedApp same⟩,
      Start.unnumberedIndex same⟩
    rwa [Start.unnumberedKey same] at free
  · rintro ⟨free, b, proposed, rfl⟩
    obtain ⟨listed, rfl⟩ := (memStartsFor done.seen).mp proposed
    have drafted := (draftedStarts keyed done.seen).mpr ⟨listed, free⟩
    obtain ⟨a, there, same⟩ := (numberedStarts done.numbers).mpr ⟨b, drafted, rfl⟩
    exact ⟨a, there, Start.unnumberedApp same, Start.unnumberedIndex same⟩

theorem enqueuedDown (keyed : s.Keyed) (done : Concludes policy now failing s s' r g d)
    (found : g.snapshot.view? app = some v) (down : v.Down i) :
    Enqueued s s' app i ↔ s.starts.get? (app.indexKey i) = none ∧ v.isStaging = false ∧
      i < v.target ∧ (i = 0 ∨ v.hasLive = true) := by
  rw [enqueuedProposed keyed done, Sight.proposalFor, found, Proposal.startedAt, v.downStarted down]

theorem coldNotEnqueued (keyed : s.Keyed) (higher : 0 < i) {deed : Deed}
    (shown : deed.shown? policy s app = some v) (down : v.Down i) (cold : ¬ v.hasLive = true) :
    ¬ Enqueued s (deed.apply policy s) app i := by
  intro enqueued
  cases deed with
  | analysis now failing =>
    -- An analysis that is cut short enqueues nothing, whatever it saw.
    rcases analysisEither policy now failing s with ⟨same, _⟩ | ⟨r, g, d, done⟩
    · obtain ⟨free, a, found, _⟩ := enqueued
      rw [same, free] at found
      cases found
    · have found := shownSeen shown done.seen
      obtain ⟨_, _, _, first | live⟩ := (enqueuedDown keyed done found down).mp enqueued
      · omega
      · exact cold live
  | _ => cases shown

/-- No analysis that sees the index down enqueues a start for it, until one sees what opens
the way. -/
def HeldBack (opens : View → Prop) (policy : Policy) (app : App) (i : Nat) : Store → List Deed → Prop
  | _, [] => True
  | s, deed :: rest =>
      (∃ v, deed.shown? policy s app = some v ∧ opens v) ∨
      (∀ v, deed.shown? policy s app = some v → v.Down i →
          ¬ Enqueued s (deed.apply policy s) app i) ∧
        HeldBack opens policy app i (deed.apply policy s) rest

theorem heldBackNext {opens : View → Prop} {deed : Deed} {rest : List Deed}
    (closed : ∀ v, deed.shown? policy s app = some v → ¬ opens v)
    (held : HeldBack opens policy app i s (deed :: rest)) :
    (∀ v, deed.shown? policy s app = some v → v.Down i → ¬ Enqueued s (deed.apply policy s) app i) ∧
      HeldBack opens policy app i (deed.apply policy s) rest := by
  rcases held with ⟨v, shown, opened⟩ | next
  · exact absurd opened (closed v shown)
  · exact next

theorem runHeldBack {ttl : Span} (reachable : s.Reachable ttl) (higher : 0 < i) (deeds : List Deed) :
    HeldBack (fun v => v.hasLive = true) policy app i s deeds := by
  induction deeds generalizing s with
  | nil => trivial
  | cons deed rest ih =>
    by_cases live : ∃ v, deed.shown? policy s app = some v ∧ v.hasLive = true
    · exact .inl live
    · refine .inr ⟨fun v shown down => ?_, ih (Store.deedReachable reachable policy deed)⟩
      exact coldNotEnqueued (Store.reachableKeyed reachable) higher shown down
        fun alive => live ⟨v, shown, alive⟩

theorem downAwaitsLife {ttl : Span} (reachable : s.Reachable ttl) (policy : Policy) (app : App)
    (higher : 0 < i) (deeds : List Deed) :
    HeldBack (fun v => v.hasLive = true) policy app i s deeds ∧
      ∀ now failing r w' v,
        analyze policy now { failing } ⟨deeds.foldl (Deed.apply policy) s, []⟩ = (.ok (.ok r), w') →
        (Deed.analysis now failing).shown? policy (deeds.foldl (Deed.apply policy) s) app = some v →
        v.Down i →
        (Enqueued (deeds.foldl (Deed.apply policy) s) w'.store app i ↔
          (deeds.foldl (Deed.apply policy) s).starts.get? (app.indexKey i) = none ∧
            v.isStaging = false ∧ i < v.target ∧ v.hasLive = true) := by
  refine ⟨runHeldBack reachable higher deeds, fun now failing r w' v ended shown down => ?_⟩
  have keyed := Store.reachableKeyed (Store.deedsReachable reachable policy deeds)
  obtain ⟨g, d, done⟩ := analyzeConcludes ended
  have found := shownSeen shown done.seen
  rw [enqueuedDown keyed done found down]
  simp [Nat.ne_of_gt higher]

def chilled : Store :=
  .after {} (.ofSecs 30) [
    .sync [⟨⟨"web", "v1"⟩, 3, .started, .staged, 0⟩] 1000,
    .flush ⟨[⟨⟨"web", "v1"⟩, 2, "a", .crashed, 1000⟩], 1000⟩]

def thaw : List Deed := [
  .analysis 1000 [],
  .analysis 1005 [],
  .flush ⟨[⟨⟨"web", "v1"⟩, 1, "b", .running, 1010⟩], 1010⟩]

def chilledView : View :=
  ⟨⟨"web", "v1"⟩, some ⟨⟨"web", "v1"⟩, 3, .started, .staged, 0⟩,
    [⟨⟨"web", "v1"⟩, 2, "a", .crashed, 1000⟩]⟩

def thawedView : View :=
  ⟨⟨"web", "v1"⟩, some ⟨⟨"web", "v1"⟩, 3, .started, .staged, 0⟩,
    [⟨⟨"web", "v1"⟩, 2, "a", .crashed, 1000⟩, ⟨⟨"web", "v1"⟩, 1, "b", .running, 1010⟩]⟩

theorem thawReleases :
    chilled.Reachable (.ofSecs 30) ∧
      (Deed.analysis 1000 []).shown? {} chilled ⟨"web", "v1"⟩ = some chilledView ∧
      chilledView.hasLive = false ∧ chilledView.Down 2 ∧ thawedView.Down 2 ∧
      HeldBack (fun v => v.hasLive = true) {} ⟨"web", "v1"⟩ 2 chilled thaw ∧
      ∃ r w', analyze {} 1010 {} ⟨thaw.foldl (Deed.apply {}) chilled, []⟩ = (.ok (.ok r), w') ∧
        Enqueued (thaw.foldl (Deed.apply {}) chilled) w'.store ⟨"web", "v1"⟩ 2 := by
  have reachable : chilled.Reachable (.ofSecs 30) := Store.afterReachable _ _ _
  have down : chilledView.Down 2 := ⟨by decide, by decide⟩
  have down' : thawedView.Down 2 := ⟨by decide, by decide⟩
  have shown : (Deed.analysis 1010 []).shown? {} (thaw.foldl (Deed.apply {}) chilled)
      ⟨"web", "v1"⟩ = some thawedView := by decide +kernel
  obtain ⟨held, enqueues⟩ := downAwaitsLife reachable {} ⟨"web", "v1"⟩ (by decide : 0 < 2) thaw
  have report : (analyze {} 1010 {} ⟨thaw.foldl (Deed.apply {}) chilled, []⟩).1 =
      .ok (.ok ⟨1, 0, 1, 0, 1, 0, 1, 0⟩) := by decide +kernel
  refine ⟨reachable, by decide +kernel, by decide, down, down', held, _, _, Prod.ext report rfl, ?_⟩
  exact (enqueues 1010 [] _ _ thawedView (Prod.ext report rfl) shown down').mpr (by decide +kernel)

/-- Index 1 comes up, and then index 2 is started though index 0 has never been alive. -/
theorem zeroNotAwaited :
    (Deed.analysis 1000 []).shown? {} chilled ⟨"web", "v1"⟩ = some chilledView ∧
      chilledView.hasLive = false ∧ chilledView.Down 2 ∧ 2 < chilledView.target ∧
      ¬ HeldBack (fun v => v.liveAt 0 ≠ []) {} ⟨"web", "v1"⟩ 2 chilled
        (thaw ++ [.analysis 1010 []]) := by
  have first : (Deed.analysis 1000 []).shown? {} chilled ⟨"web", "v1"⟩ = some chilledView := by
    decide +kernel
  have second : (Deed.analysis 1005 []).shown? {} (Deed.apply {} chilled (.analysis 1000 []))
      ⟨"web", "v1"⟩ = some chilledView := by decide +kernel
  have last : (Deed.analysis 1010 []).shown? {} (thaw.foldl (Deed.apply {}) chilled)
      ⟨"web", "v1"⟩ = some thawedView := by decide +kernel
  refine ⟨first, by decide, ⟨by decide, by decide⟩, by decide, fun held => ?_⟩
  obtain ⟨_, held⟩ := heldBackNext (fun v shown => by cases first.symm.trans shown; decide) held
  obtain ⟨_, held⟩ := heldBackNext (fun v shown => by cases second.symm.trans shown; decide) held
  obtain ⟨_, held⟩ := heldBackNext (by rintro v ⟨⟩) held
  obtain ⟨none, _⟩ := heldBackNext (fun v shown => by cases last.symm.trans shown; decide) held
  refine none thawedView last ⟨by decide, by decide⟩ ⟨by decide +kernel, ?_⟩
  exact ⟨⟨⟨"web", "v1"⟩, 2, .crashed, .ofRatio 2 3, ⟨3, 1010, 0, 30, false⟩⟩,
    by decide +kernel, rfl, rfl⟩

end Analysis
end Fleet
