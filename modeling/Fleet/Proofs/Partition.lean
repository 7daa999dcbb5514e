import Fleet.Proofs.ByteOrder
import Fleet.Proofs.Snapshots

/-! A snapshot partitions the state that it is made of. Each application that is wanted or
reported has one view, the views stand in the order of their bytes, and every report is in the
view of its own application, also where two applications have one key. -/
namespace Fleet
namespace Snapshot
variable {desired : List Spec} {actual : List Heartbeat} {app : App} {v : View}

structure Partitions (s : Snapshot) (desired : List Spec) (actual : List Heartbeat) : Prop where
  ordered : (s.apps.map View.app).Pairwise App.Before
  listed : ∀ app, app ∈ s.apps.map View.app ↔
    app ∈ desired.map Spec.app ∨ app ∈ actual.map Heartbeat.app
  wanted : ∀ v ∈ s.apps, v.desired = (desired.filter (·.app = v.app)).getLast?
  reported : ∀ v ∈ s.apps, v.heartbeats = actual.filter (·.app = v.app)
  whole : (s.apps.flatMap View.heartbeats).Perm actual
  once : ∀ h ∈ actual, ∃! v, v ∈ s.apps ∧ h ∈ v.heartbeats
  found : ∀ app v, s.view? app = some v ↔ v ∈ s.apps ∧ v.app = app
  shown : ∀ app, (s.view? app).isSome = true ↔
    app ∈ desired.map Spec.app ∨ app ∈ actual.map Heartbeat.app

theorem viewShown : (ofState desired actual).view? app = some v ↔
    v ∈ (ofState desired actual).apps ∧ v.app = app := by
  constructor
  · intro found
    have entry : (app, v) ∈ (ofState desired actual).views.entries := (Table.getSome _).mp found
    exact ⟨List.mem_map.mpr ⟨_, entry, rfl⟩, (viewFiled found).1⟩
  · intro shown
    rw [← shown.2]
    exact appsFiled shown.1

theorem viewOccurs (desired : List Spec) (actual : List Heartbeat) (app : App) :
    ((ofState desired actual).view? app).isSome = true ↔
      app ∈ desired.map Spec.app ∨ app ∈ actual.map Heartbeat.app := by
  rw [Option.isSome_iff_ne_none, ne_eq, stateHidden, List.filter_eq_nil_iff, List.filter_eq_nil_iff]
  simp only [List.mem_map, decide_eq_true_eq]
  grind

theorem appsOccur (desired : List Spec) (actual : List Heartbeat) (app : App) :
    app ∈ (ofState desired actual).apps.map View.app ↔
      app ∈ desired.map Spec.app ∨ app ∈ actual.map Heartbeat.app := by
  rw [← viewOccurs, Option.isSome_iff_exists, List.mem_map]
  exact exists_congr fun v => viewShown.symm

theorem appsApart (desired : List Spec) (actual : List Heartbeat) :
    ((ofState desired actual).apps.map View.app).Nodup := by
  apply List.pairwise_map.mpr
  apply (appsInOrder desired actual).imp
  intro v w below same
  rw [same] at below
  simp at below

theorem appsWhole (desired : List Spec) (actual : List Heartbeat) :
    ((ofState desired actual).apps.flatMap View.heartbeats).Perm actual := by
  have within : ∀ h ∈ actual, h.app ∈ (ofState desired actual).apps.map View.app := by
    intro h member
    exact (appsOccur desired actual h.app).mpr (.inr (List.mem_map_of_mem member))
  have parts := partsPerm Heartbeat.app (appsApart desired actual) within
  rw [List.flatMap_map] at parts
  have each : ∀ v ∈ (ofState desired actual).apps, actual.filter (·.app = v.app) = v.heartbeats :=
    fun v shown => (viewFiled (appsFiled shown)).2.symm
  rwa [List.flatMap_congr each] at parts

theorem reportOnce {h : Heartbeat} (member : h ∈ actual) :
    ∃! v, v ∈ (ofState desired actual).apps ∧ h ∈ v.heartbeats := by
  have occurs : ((ofState desired actual).view? h.app).isSome = true :=
    (viewOccurs desired actual h.app).mpr (.inr (List.mem_map_of_mem member))
  obtain ⟨v, found⟩ := Option.isSome_iff_exists.mp occurs
  obtain ⟨_, reports⟩ := viewFiled found
  refine ⟨v, ⟨(viewShown.mp found).1, ?_⟩, ?_⟩
  · rw [reports]
    exact List.mem_filter.mpr ⟨member, decide_eq_true rfl⟩
  · intro w other
    have filed := appsFiled other.1
    have here := other.2
    rw [(viewFiled filed).2] at here
    have owned : h.app = w.app := by simpa using (List.mem_filter.mp here).2
    rw [← owned, found] at filed
    exact (Option.some.inj filed).symm

theorem statePartitioned (desired : List Spec) (actual : List Heartbeat) :
    (ofState desired actual).Partitions desired actual where
  ordered := List.pairwise_map.mpr
    ((appsInOrder desired actual).imp fun below => App.compareBefore.mp below)
  listed := appsOccur desired actual
  wanted _ shown := viewDesired (appsFiled shown)
  reported _ shown := (viewFiled (appsFiled shown)).2
  whole := appsWhole desired actual
  once _ := reportOnce
  found _ _ := viewShown
  shown := viewOccurs desired actual

example : (ofState [⟨⟨"a,b", "c"⟩, 1, .started, .staged, 0⟩, ⟨⟨"a,b", "c"⟩, 2, .started, .staged, 0⟩]
    [⟨⟨"a,b", "c"⟩, 0, "x", .running, 9⟩, ⟨⟨"a", "b,c"⟩, 0, "x", .running, 9⟩]).apps =
    [⟨⟨"a", "b,c"⟩, none, [⟨⟨"a", "b,c"⟩, 0, "x", .running, 9⟩]⟩,
      ⟨⟨"a,b", "c"⟩, some ⟨⟨"a,b", "c"⟩, 2, .started, .staged, 0⟩,
        [⟨⟨"a,b", "c"⟩, 0, "x", .running, 9⟩]⟩] := by decide +kernel

end Snapshot
end Fleet
