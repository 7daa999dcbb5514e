import Mathlib.Data.List.Nodup
import Fleet.Proofs.Cycles
import Fleet.Proofs.Rows

/-! What a snapshot shows of each application: its heartbeats in the order of the state,
and where the reported state keeps its records under their own keys, no guid twice. -/
namespace Fleet

theorem View.byGuidOf {v : View} (distinct : (v.heartbeats.map Heartbeat.guid).Nodup) {h : Heartbeat}
    (member : h ∈ v.heartbeats) : v.byGuid? h.guid = some h := by
  cases found : v.byGuid? h.guid with
  | none =>
    have none := List.find?_eq_none.mp found h member
    simp at none
  | some k =>
    have same : k.guid = h.guid := by simpa using List.find?_some found
    rw [List.inj_on_of_nodup_map distinct (List.mem_of_find?_eq_some found) member same]

namespace Snapshot
variable {s : Snapshot} {app : App} {v : View}

def viewOf (s : Snapshot) (app : App) : View := (s.view? app).getD (.bare app)

def Filed (s : Snapshot) : Prop := ∀ app v, s.view? app = some v → v.app = app

theorem changeView (s : Snapshot) (app other : App) (f : View → View) :
    (s.change app f).view? other = if other = app then some (f (s.viewOf app)) else s.view? other := by
  simp [change, view?, viewOf, Table.alter]

theorem filedOf (filed : s.Filed) (app : App) : (s.viewOf app).app = app := by
  cases found : s.view? app with
  | none => simp [viewOf, found, View.bare]
  | some v => simpa [viewOf, found] using filed app v found

theorem filedChange (filed : s.Filed) {f : View → View} (keeps : ∀ v, (f v).app = v.app) (app : App) :
    (s.change app f).Filed := by
  intro other v found
  rw [changeView] at found
  split at found
  · rename_i same
    cases found
    rw [keeps, filedOf filed, same]
  · exact filed other v found

theorem filedWant (desired : List Spec) (filed : s.Filed) : (desired.foldl want s).Filed := by
  induction desired generalizing s with
  | nil => exact filed
  | cons spec rest ih =>
    have wanted : (s.want spec).Filed := filedChange filed (by intro v; rfl) spec.app
    exact ih wanted

theorem filedObserve (actual : List Heartbeat) (filed : s.Filed) : (actual.foldl observe s).Filed := by
  induction actual generalizing s with
  | nil => exact filed
  | cons h rest ih =>
    have observed : (s.observe h).Filed := filedChange filed (by intro v; rfl) h.app
    exact ih observed

theorem wantHeartbeats (desired : List Spec) (s : Snapshot) (app : App) :
    ((desired.foldl want s).viewOf app).heartbeats = (s.viewOf app).heartbeats := by
  induction desired generalizing s with
  | nil => rfl
  | cons spec rest ih =>
    rw [List.foldl_cons, ih, viewOf, want, changeView]
    split
    · rename_i same
      subst same
      rfl
    · rfl

theorem observeHeartbeats (actual : List Heartbeat) (s : Snapshot) (app : App) :
    ((actual.foldl observe s).viewOf app).heartbeats =
      (s.viewOf app).heartbeats ++ actual.filter (·.app = app) := by
  induction actual generalizing s with
  | nil => simp
  | cons h rest ih =>
    rw [List.foldl_cons, ih, viewOf, observe, changeView]
    by_cases same : app = h.app
    · subst same
      simp
    · have other : ¬ h.app = app := fun e => same e.symm
      simp [same, other, viewOf]

variable {desired : List Spec} {actual : List Heartbeat}

theorem viewFiled (found : (ofState desired actual).view? app = some v) :
    v.app = app ∧ v.heartbeats = actual.filter (·.app = app) := by
  have filed : (ofState desired actual).Filed :=
    filedObserve actual (filedWant desired fun _ _ h => nomatch h)
  refine ⟨filed app v found, ?_⟩
  have shown := observeHeartbeats actual (desired.foldl want empty) app
  rw [wantHeartbeats] at shown
  have here : (actual.foldl observe (desired.foldl want empty)).viewOf app = v := by
    rw [viewOf, ← ofState, found, Option.getD_some]
  rw [here] at shown
  exact shown.trans (List.nil_append _)

theorem appsFiled (member : v ∈ (ofState desired actual).apps) :
    (ofState desired actual).view? v.app = some v := by
  obtain ⟨e, inTable, rfl⟩ := List.mem_map.mp member
  have found : (ofState desired actual).view? e.1 = some e.2 := Table.getSome _ |>.mpr inTable
  rw [(viewFiled found).1, found]

theorem guidsDistinct {t : Store} {now : Nat} (own : Rows.Own Heartbeat.key t.actual)
    (shows : Cycle.Shows t now s) (found : s.view? app = some v) :
    (v.heartbeats.map Heartbeat.guid).Nodup := by
  obtain ⟨desired, actual, _, current, rfl⟩ := shows
  obtain ⟨_, shown⟩ := viewFiled found
  cases scan : t.actual.scan with
  | error e =>
    rw [Store.actualState, scan] at current
    cases current
  | ok hs =>
    rw [Store.actualState, scan] at current
    cases current
    have keys : (v.heartbeats.map Heartbeat.key).Nodup := by
      rw [shown]
      refine (Rows.ownScanDistinct own scan).sublist (List.Sublist.map _ ?_)
      exact (List.filter_sublist.trans List.filter_sublist)
    -- Within one application the key is a function of the guid.
    have named : v.heartbeats.map Heartbeat.key =
        (v.heartbeats.map Heartbeat.guid).map app.guidKey := by
      rw [List.map_map]
      refine List.map_congr_left fun h member => ?_
      rw [shown] at member
      have same : h.app = app := by simpa using (List.mem_filter.mp member).2
      rw [Heartbeat.key, same, Function.comp_apply]
    exact List.Nodup.of_map _ (named ▸ keys)

theorem wantDesired (desired : List Spec) (s : Snapshot) (app : App) :
    ((desired.foldl want s).viewOf app).desired =
      (desired.filter (·.app = app)).getLast?.or (s.viewOf app).desired := by
  induction desired generalizing s with
  | nil => rfl
  | cons spec rest ih =>
    rw [List.foldl_cons, ih, viewOf, want, changeView]
    by_cases same : app = spec.app
    · subst same
      cases last : (rest.filter (·.app = spec.app)).getLast? <;> simp [List.getLast?_cons, last]
    · have other : ¬ spec.app = app := fun e => same e.symm
      simp [same, other, viewOf]

theorem observeDesired (actual : List Heartbeat) (s : Snapshot) (app : App) :
    ((actual.foldl observe s).viewOf app).desired = (s.viewOf app).desired := by
  induction actual generalizing s with
  | nil => rfl
  | cons h rest ih =>
    rw [List.foldl_cons, ih, viewOf, observe, changeView]
    split
    · rename_i same
      subst same
      rfl
    · rfl

theorem foldHidden {β : Type} (appOf : β → App) (f : β → View → View) (l : List β) (s : Snapshot)
    (app : App) : (l.foldl (fun s b => s.change (appOf b) (f b)) s).view? app = none ↔
      s.view? app = none ∧ l.filter (appOf · = app) = [] := by
  induction l generalizing s with
  | nil => simp
  | cons b rest ih =>
    rw [List.foldl_cons, ih, changeView]
    by_cases same : app = appOf b
    · simp [same]
    · have other : ¬ appOf b = app := fun e => same e.symm
      simp [same, other]

theorem stateHidden (desired : List Spec) (actual : List Heartbeat) (app : App) :
    (ofState desired actual).view? app = none ↔
      desired.filter (·.app = app) = [] ∧ actual.filter (·.app = app) = [] := by
  refine (foldHidden Heartbeat.app _ actual _ app).trans (and_congr_left' ?_)
  exact (foldHidden Spec.app _ desired _ app).trans (and_iff_right rfl)

theorem viewDesired (found : (ofState desired actual).view? app = some v) :
    v.desired = (desired.filter (·.app = app)).getLast? := by
  have here : (actual.foldl observe (desired.foldl want empty)).viewOf app = v := by
    rw [viewOf, ← ofState, found, Option.getD_some]
  rw [← here, observeDesired, wantDesired]
  exact Option.or_none

theorem viewOfState (desired : List Spec) (actual : List Heartbeat) (app : App) :
    (ofState desired actual).view? app =
      if desired.filter (·.app = app) = [] ∧ actual.filter (·.app = app) = [] then none
      else some ⟨app, (desired.filter (·.app = app)).getLast?, actual.filter (·.app = app)⟩ := by
  cases found : (ofState desired actual).view? app with
  | none => rw [if_pos ((stateHidden desired actual app).mp found)]
  | some v =>
    have shown : ¬ (desired.filter (·.app = app) = [] ∧ actual.filter (·.app = app) = []) := by
      rw [← stateHidden, found]
      nofun
    obtain ⟨named, heartbeats⟩ := viewFiled found
    rw [if_neg shown, ← viewDesired found, ← heartbeats, ← named]

theorem appsInOrder (desired : List Spec) (actual : List Heartbeat) :
    (ofState desired actual).apps.Pairwise fun v v' => compare v.app v'.app = .lt := by
  refine List.pairwise_map.mpr ((ofState desired actual).views.ascending.imp_of_mem ?_)
  intro e e' member member' below
  have filed : (ofState desired actual).view? e.1 = some e.2 := Table.getSome _ |>.mpr member
  have filed' : (ofState desired actual).view? e'.1 = some e'.2 := Table.getSome _ |>.mpr member'
  rw [(viewFiled filed).1, (viewFiled filed').1]
  exact below

end Snapshot
end Fleet
