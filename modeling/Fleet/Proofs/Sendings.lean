import Fleet.Proofs.Reachability
import Fleet.Proofs.RunningIndices
import Fleet.Proofs.Snapshots

/-! What the messages of a dispatch say, whenever their actions were decided: a start that
may not go unverified is for a wanted index that nobody serves at that time, a stop for a
live instance that the application can do without, and each of them counts the live
instances as they are. -/
namespace Fleet

namespace Procedure
variable {α : Type} {s : Surroundings} {w w' : World}

theorem attemptSent {c : Call} {r : Except StoreError c.Reply}
    (attempted : attempt s c w = .ok (r, w')) :
    w'.sent = w.sent ∨ ∃ m, c = .send m ∧ w'.sent = w.sent ++ [(m, s.accepts m)] := by
  rcases attemptServed attempted with rfl | served
  · exact .inl rfl
  cases c with
  | send m =>
    cases served
    exact .inr ⟨m, rfl, rfl⟩
  | reserveIds n =>
    obtain ⟨lastId, rfl⟩ := World.reserved served
    exact .inl rfl
  | increment m =>
    obtain ⟨metrics, rfl⟩ := World.incremented served
    exact .inl rfl
  | _ =>
    cases served
    exact .inl rfl

theorem sentOnly {like : Message → Prop} {p : Procedure α}
    (only : p.Only fun c => ∀ m, c = .send m → like m) (w : World) :
    ∀ e ∈ (p.run s w).2.sent, e ∈ w.sent ∨ like e.1 := by
  induction p generalizing w with
  | done a => exact fun e member => .inl member
  | halt o => exact fun e member => .inl member
  | call c next ih =>
    intro e member
    rw [run] at member
    cases attempted : attempt s c w with
    | error o =>
      rw [attempted] at member
      exact .inl member
    | ok made =>
      rw [attempted] at member
      rcases ih made.1 (only.2 made.1) made.2 e member with old | new
      · rcases attemptSent attempted with same | ⟨m, rfl, more⟩
        · exact .inl (same ▸ old)
        · rw [more, List.mem_append, List.mem_singleton] at old
          rcases old with old | rfl
          · exact .inl old
          · exact .inr (only.1 m rfl)
      · exact .inr new

end Procedure

namespace Dispatch
variable {policy : Policy} {now : Nat} {s : Surroundings} {w : World} {g : Sight}

def Sight.messages (g : Sight) (policy : Policy) (now : Nat) : List Message :=
  (g.tried policy now).map (startMessage g.snapshot) ++ (g.dueStops now).map (stopMessage g.snapshot)

section
variable {α : Type} {allowed : Call → Prop}

theorem onlyDeliverAll {message : α → Message} {counter : α → String} {l : List α}
    (sends : ∀ a ∈ l, allowed (.send (message a))) (counts : ∀ name, allowed (.increment name)) :
    (deliverAll message counter l).Only allowed := by
  induction l with
  | nil => trivial
  | cons a rest ih =>
    have first : (deliver (message a) (counter a)).Only allowed := by
      refine ⟨sends a List.mem_cons_self, fun answer => ?_⟩
      rcases answer with e | (_ | _)
      · trivial
      · trivial
      · exact ⟨counts _, fun _ => trivial⟩
    refine Procedure.onlyBind first fun taken => ?_
    refine Procedure.onlyBind (ih fun b member => sends b (List.mem_cons_of_mem _ member)) fun others => ?_
    trivial

theorem onlySettle (now : Nat) (g : Sight) (t : Sent)
    (plain : ∀ c : Call, c.message? = none → c.decision? = none → allowed c) :
    (settle now g t).run.Only allowed := by
  refine Cycle.onlyBind (Cycle.onlyWrite (plain _ rfl rfl)) fun _ => ?_
  refine Cycle.onlyBind (Cycle.onlyWrite (plain _ rfl rfl)) fun _ => ?_
  exact Cycle.onlyBind (Cycle.onlyWrite (plain _ rfl rfl)) fun _ => Cycle.onlyWrite (plain _ rfl rfl)

theorem onlySend (policy : Policy) (now : Nat) (g : Sight)
    (sends : ∀ m ∈ g.messages policy now, allowed (.send m)) (counts : ∀ name, allowed (.increment name)) :
    (send policy now g).Only allowed := by
  refine Procedure.onlyBind (onlyDeliverAll (fun a member => ?_) counts) fun starts => ?_
  · exact sends _ (List.mem_append_left _ (List.mem_map_of_mem member))
  refine Procedure.onlyBind (onlyDeliverAll (fun a member => ?_) counts) fun stops => ?_
  · exact sends _ (List.mem_append_right _ (List.mem_map_of_mem member))
  trivial

end

def afterLook (policy : Policy) (now : Nat) (g : Sight) : Cycle Report := do
  let t ← ExceptT.lift (send policy now g)
  settle now g t
  ExceptT.mk (.done (conclude policy now g t))

theorem onlyAfterLook (policy : Policy) (now : Nat) (g : Sight) (allowed : Call → Prop)
    (sends : ∀ m ∈ g.messages policy now, allowed (.send m))
    (plain : ∀ c : Call, c.message? = none → c.decision? = none → allowed c) :
    (afterLook policy now g).run.Only allowed := by
  refine Cycle.onlyBind (x := ExceptT.lift (send policy now g)) ?_ fun t => ?_
  · exact Procedure.onlyBind (onlySend policy now g sends fun _ => plain _ rfl rfl) fun _ => trivial
  · exact Cycle.onlyBind (onlySettle now g t plain) fun _ => trivial

theorem cycleSends (policy : Policy) (now : Nat) (s : Surroundings) (w : World) :
    ∀ e ∈ ((cycle policy now).run.run s w).2.sent, e ∈ w.sent ∨
      ∃ g, Seen policy now w.store g ∧ e.1 ∈ g.messages policy now := by
  intro e member
  rcases lookLooks policy now s w with ⟨g, seen, looked⟩ | ⟨e, looked⟩
  · rw [cycle, Cycle.runBindOk looked] at member
    have only := onlyAfterLook policy now g (fun c => ∀ m, c = .send m → m ∈ g.messages policy now)
      (fun m tried m' same => Call.send.inj same ▸ tried) (fun c silent _ m same => by
        rw [same] at silent
        cases silent)
    exact (Procedure.sentOnly only w e member).imp_right fun tried => ⟨g, seen, tried⟩
  · rw [cycle, Cycle.runBindError looked] at member
    exact .inl member

end Dispatch

def liveOf (actual : List Heartbeat) (app : App) (index : Nat) : List Heartbeat :=
  actual.filter fun h => h.app = app && h.index = index && h.isLive

def Tallies (actual : List Heartbeat) (app : App) (running : Table Nat Nat) : Prop :=
  ∀ i, running.get? i = if liveOf actual app i = [] then none else some (liveOf actual app i).length

namespace Snapshot
variable {s : Store} {desired : List Spec} {actual : List Heartbeat} {app : App} {v : View}

theorem viewLive (found : (ofState desired actual).view? app = some v) (i : Nat) :
    v.liveAt i = liveOf actual app i := by
  rw [View.liveAt, (viewFiled found).2, List.filter_filter, liveOf]
  refine List.filter_congr fun h _ => ?_
  cases decide (h.app = app) <;> simp

theorem viewSpec (keyed : s.Keyed) (read : s.desiredState = .ok desired)
    (found : (ofState desired actual).view? app = some v) {spec : Spec} :
    v.desired = some spec ↔ spec ∈ desired ∧ spec.app = app := by
  have last := viewDesired found
  constructor
  · intro wanted
    have listed := List.mem_filter.mp (List.mem_of_getLast? (last.symm.trans wanted))
    exact ⟨listed.1, of_decide_eq_true listed.2⟩
  · rintro ⟨member, owned⟩
    have listed : spec ∈ desired.filter (·.app = app) :=
      List.mem_filter.mpr ⟨member, decide_eq_true owned⟩
    obtain ⟨other, isLast⟩ := Option.ne_none_iff_exists'.mp
      (mt List.getLast?_eq_none_iff.mp (List.ne_nil_of_mem listed))
    have there := List.mem_filter.mp (List.mem_of_getLast? isLast)
    have same : other = spec := Store.specOf keyed read there.1 member
      (by rw [of_decide_eq_true there.2, owned])
    rw [last, isLast, same]

theorem runningTallies (desired : List Spec) (actual : List Heartbeat) (app : App) :
    Tallies actual app (Dispatch.runningOf (ofState desired actual) app) := by
  intro i
  unfold Dispatch.runningOf
  cases found : (ofState desired actual).view? app with
  | some v => rw [View.runningAt, viewLive found]
  | none =>
    have none := ((stateHidden desired actual app).mp found).2
    have empty : liveOf actual app i = [] := by
      refine List.filter_eq_nil_iff.mpr fun h member => ?_
      have other := List.filter_eq_nil_iff.mp none h member
      simp_all
    rw [if_pos empty, Table.getEmpty]

end Snapshot

structure Vacant (desired : List Spec) (actual : List Heartbeat) (app : App) (index : Nat) : Prop where
  wanted : ∃ spec ∈ desired, spec.app = app ∧ spec.wanted = true ∧ index < spec.instances
  bare : liveOf actual app index = []

structure Spare (desired : List Spec) (actual : List Heartbeat) (h : Heartbeat) : Prop where
  live : h.isLive = true
  settled : ∀ spec ∈ desired, spec.app = h.app → spec.staging = false
  spare : h.isEvacuating = true ∨ (∀ spec ∈ desired, spec.app = h.app → spec.target ≤ h.index) ∨
    (∃ k ∈ liveOf actual h.app h.index, k.guid ≠ h.guid) ∨
    ∀ spec ∈ desired, spec.app = h.app → spec.wanted = false

/-- What a message says holds of the state: of a start, if its action was decided for want
of an instance, and not to replace one that leaves. -/
def Sound (s : Store) (desired : List Spec) (actual : List Heartbeat) : Message → Prop
  | .start m =>
      Tallies actual m.app m.running ∧ ∃ a, s.starts.record? (m.app.indexKey m.index) = some a ∧
        a.app = m.app ∧ a.index = m.index ∧ a.delivery.messageId = m.messageId ∧
        (a.reason = .missing ∨ a.reason = .crashed → Vacant desired actual m.app m.index)
  | .stop m =>
      Tallies actual m.app m.running ∧
        ∃ h ∈ actual, h.app = m.app ∧ h.guid = m.guid ∧ Spare desired actual h

namespace Dispatch
variable {policy : Policy} {now : Nat} {s : Store} {g : Sight} {desired : List Spec}
  {actual : List Heartbeat}

theorem passedVacant {a : Start} (passed : a.rejection? (.ofState desired actual) = none) :
    Vacant desired actual a.app a.index := by
  unfold Start.rejection? at passed
  split at passed
  · cases passed
  rename_i v filtered
  obtain ⟨found, wanted⟩ := Option.filter_eq_some_iff.mp filtered
  split at passed
  · cases passed
  rename_i within
  split at passed
  · cases passed
  rename_i empty
  constructor
  · obtain ⟨spec, has, starts⟩ := (Option.any_eq_true _ _).mp wanted
    have listed := List.mem_filter.mp (List.mem_of_getLast? ((Snapshot.viewDesired found).symm.trans has))
    refine ⟨spec, listed.1, of_decide_eq_true listed.2, starts, ?_⟩
    simpa [View.target, has, Spec.target, starts] using within
  · rw [← Snapshot.viewLive found]
    simpa using empty

theorem passedSpare (keyed : s.Keyed) (read : s.desiredState = .ok desired) {a : Stop}
    (passed : a.rejection? (.ofState desired actual) = none) :
    ∃ h ∈ actual, h.app = a.app ∧ h.guid = a.guid ∧ Spare desired actual h := by
  unfold Stop.rejection? at passed
  split at passed
  · cases passed
  rename_i v found
  split at passed
  · cases passed
  rename_i h filtered
  obtain ⟨byGuid, live⟩ := Option.filter_eq_some_iff.mp filtered
  split at passed
  · cases passed
  rename_i calm
  split at passed
  case isFalse => cases passed
  rename_i spares
  have guid := List.find?_some byGuid
  have listed := List.mem_of_find?_eq_some byGuid
  rw [(Snapshot.viewFiled found).2] at listed
  obtain ⟨member, owned⟩ := List.mem_filter.mp listed
  have app : h.app = a.app := of_decide_eq_true owned
  have spec : ∀ spec ∈ desired, spec.app = h.app → v.desired = some spec := fun spec member owned =>
    (Snapshot.viewSpec keyed read found).mpr ⟨member, owned.trans app⟩
  refine ⟨h, member, app, of_decide_eq_true guid, live, fun d member owned => ?_, ?_⟩
  · simpa [View.isStaging, spec d member owned] using calm
  simp only [View.spares, Bool.or_eq_true, decide_eq_true_eq, Bool.not_eq_true'] at spares
  rcases spares with ((beyond | beside) | evacuates) | unwanted
  · refine .inr (.inl fun d member owned => ?_)
    simpa [View.target, spec d member owned] using beyond
  · obtain ⟨k, there, apart⟩ := List.any_eq_true.mp beside
    rw [Snapshot.viewLive found, ← app] at there
    exact .inr (.inr (.inl ⟨k, there, of_decide_eq_true apart⟩))
  · exact .inl evacuates
  · refine .inr (.inr (.inr fun d member owned => ?_))
    simpa [View.isDesired, spec d member owned] using unwanted

end Dispatch

namespace Chronicle
variable {policy : Policy} {now : Nat}

theorem messageSound (ttl : Span) (run : List (Policy × Deed)) {g : Dispatch.Sight}
    (seen : Dispatch.Seen policy now (after ttl run).store g) {m : Message}
    (tried : m ∈ g.messages policy now) : ∃ desired actual,
      (after ttl run).store.desiredState = .ok desired ∧
      (after ttl run).store.actualState now = .ok actual ∧
      Sound (after ttl run).store desired actual m := by
  have keyed := Store.reachableKeyed (Store.chronicleReachable ttl run)
  obtain ⟨_, kept⟩ := afterKept ttl run
  obtain ⟨desired, actual, desiredRead, actualRead, shows⟩ := seen.shows
  refine ⟨desired, actual, desiredRead, actualRead, ?_⟩
  rcases List.mem_append.mp tried with started | stopped
  · obtain ⟨a, member, rfl⟩ := List.mem_map.mp started
    obtain ⟨read, fate⟩ := Dispatch.memTried member
    obtain ⟨_, _, passed⟩ := Dispatch.fateDue.mp fate
    obtain ⟨r, p, record, rfl⟩ := Rows.startOfScan keyed.starts seen.starts read
    refine ⟨shows ▸ Snapshot.runningTallies desired actual r.app, r, record, rfl, rfl, rfl, ?_⟩
    intro verified
    rw [shows] at passed
    refine Dispatch.passedVacant (passed.resolve_left fun skips => ?_)
    have leaves := (kept.apt _ r record).skips.mp skips
    rcases verified with missing | crashed <;> simp_all
  · obtain ⟨a, member, rfl⟩ := List.mem_map.mp stopped
    obtain ⟨read, fate⟩ := Dispatch.memDueStops.mp member
    obtain ⟨_, _, passed⟩ := Dispatch.fateDue.mp fate
    have record := Rows.stopOfScan keyed.stops seen.stops read
    rw [shows, kept.verified _ a record] at passed
    exact ⟨shows ▸ Snapshot.runningTallies desired actual a.app,
      Dispatch.passedSpare keyed desiredRead (passed.resolve_left Bool.false_ne_true)⟩

theorem sendingsSound (ttl : Span) (run : List (Policy × Deed)) (policy : Policy) (now : Nat)
    (failing : List String) (accepts : Message → Bool) :
    ∀ e ∈ (dispatch policy now { failing, accepts } ⟨(after ttl run).store, []⟩).2.sent,
      ∃ desired actual, (after ttl run).store.desiredState = .ok desired ∧
        (after ttl run).store.actualState now = .ok actual ∧
        Sound (after ttl run).store desired actual e.1 := by
  intro e member
  rcases Dispatch.cycleSends policy now { failing, accepts } ⟨(after ttl run).store, []⟩ e member
    with old | ⟨g, seen, tried⟩
  · cases old
  · exact messageSound ttl run seen tried

def lopsided : List (Policy × Deed) :=
  let web : App := ⟨"web", "v1"⟩
  let api : App := ⟨"api", "v1"⟩
  let wants (time : Nat) : Deed := .sync [⟨web, 2, .started, .staged, 0⟩, ⟨api, 1, .started, .staged, 0⟩] time
  let reports (time : Nat) : Deed := .flush ⟨[⟨web, 0, "a", .running, time⟩,
    ⟨api, 0, "b", .running, time⟩, ⟨api, 0, "c", .running, time⟩], time⟩
  [({}, wants 1000), ({}, reports 1000), ({}, .analysis 1000 []), ({}, wants 1030), ({}, reports 1030)]

theorem lopsidedSound :
    (dispatch {} 1030 {} ⟨(after (.ofSecs 30) lopsided).store, []⟩).2.sent =
      [(.start ⟨⟨"web", "v1"⟩, 1, 1, .ofList [(0, 1)]⟩, true),
        (.stop ⟨⟨"api", "v1"⟩, 0, "c", true, 2, .ofList [(0, 2)]⟩, true)] ∧
    ∀ m ∈ [Message.start ⟨⟨"web", "v1"⟩, 1, 1, .ofList [(0, 1)]⟩,
        .stop ⟨⟨"api", "v1"⟩, 0, "c", true, 2, .ofList [(0, 2)]⟩],
      ∃ desired actual, (after (.ofSecs 30) lopsided).store.desiredState = .ok desired ∧
        (after (.ofSecs 30) lopsided).store.actualState 1030 = .ok actual ∧
        Sound (after (.ofSecs 30) lopsided).store desired actual m := by
  have sent : (dispatch {} 1030 {} ⟨(after (.ofSecs 30) lopsided).store, []⟩).2.sent =
      [(.start ⟨⟨"web", "v1"⟩, 1, 1, .ofList [(0, 1)]⟩, true),
        (.stop ⟨⟨"api", "v1"⟩, 0, "c", true, 2, .ofList [(0, 2)]⟩, true)] := by
    decide +kernel
  have sound := sendingsSound (.ofSecs 30) lopsided {} 1030 [] fun _ => true
  refine ⟨sent, fun m member => ?_⟩
  simp only [List.mem_cons, List.not_mem_nil, or_false] at member
  rcases member with rfl | rfl
  · exact sound (.start ⟨⟨"web", "v1"⟩, 1, 1, .ofList [(0, 1)]⟩, true) (sent ▸ List.mem_cons_self)
  · exact sound (.stop ⟨⟨"api", "v1"⟩, 0, "c", true, 2, .ofList [(0, 2)]⟩, true)
      (sent ▸ List.mem_cons_of_mem _ List.mem_cons_self)

end Chronicle
end Fleet
