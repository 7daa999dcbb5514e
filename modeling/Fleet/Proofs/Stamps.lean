import Fleet.Proofs.Flushes
import Fleet.Proofs.Reachability
import Fleet.Service.Api

/-! Which operations may set a stamp of freshness back. Reports and marks raise their stamp
or leave it, and no cycle touches either. Only a sync sets the stamp of the wanted state
to its own time, so that stamp goes back exactly when a sync comes with an earlier time. -/
namespace Fleet

namespace Freshness

structure Advances (before after : Freshness) : Prop where
  desired : before.desiredAt ≤ after.desiredAt
  actual : before.actualAt ≤ after.actualAt

theorem advancesSame {f f' : Freshness} (same : f' = f) : Advances f f' :=
  same ▸ ⟨Nat.le_refl _, Nat.le_refl _⟩

theorem advancesTrans {f g h : Freshness} (first : Advances f g) (rest : Advances g h) : Advances f h :=
  ⟨first.desired.trans rest.desired, first.actual.trans rest.actual⟩

end Freshness

open Freshness (Advances)

namespace Store

theorem savedAdvances (s : Store) (heartbeats : List Heartbeat) (receivedAt : Nat) :
    Advances s.freshness (s.saveActual heartbeats receivedAt).freshness :=
  ⟨Nat.le_refl _, Nat.le_max_left _ _⟩

theorem flushAdvances (i : Intake) (s : Store) (refusal : Option Intake.Refusal) :
    Advances s.freshness (i.flush s refusal).store.freshness := by
  by_cases never : i.receivedAt = 0
  · rw [Intake.flushIdle never]
    exact Freshness.advancesSame rfl
  cases refusal with
  | none =>
    rw [Intake.flushSaves never]
    exact savedAdvances s _ _
  | some refusal =>
    obtain ⟨_, _, store | store⟩ := Intake.flushRefused never s refusal <;> rw [store] <;>
      exact Freshness.advancesSame rfl

theorem reapedFreshness {s s' : Store} {now n : Nat} (reaped : s.reap now = .ok (n, s')) :
    s'.freshness = s.freshness := by
  obtain ⟨gone, rfl⟩ := reapedRest reaped
  rfl

theorem tickAdvances (i : Intake) (s : Store) (now : Nat) (refusal : Option Intake.Refusal) :
    Advances s.freshness (i.tick s now refusal).2.freshness := by
  have flushed := flushAdvances i s refusal
  simp only [Intake.tick]
  cases reaped : (i.flush s refusal).store.reap now with
  | error e => exact flushed
  | ok r =>
    have rest : r.2.freshness = (i.flush s refusal).store.freshness := reapedFreshness reaped
    exact Freshness.advancesTrans flushed (Freshness.advancesSame rest)

end Store

namespace Procedure
variable {α : Type} {surroundings : Surroundings}

theorem attemptFreshness {c : Call} {w w' : World} {r : Except StoreError c.Reply}
    (attempted : attempt surroundings c w = .ok (r, w')) :
    w'.store.freshness = w.store.freshness := by
  rcases attemptServed attempted with rfl | served
  · rfl
  · obtain ⟨_, _, _, _, _, same⟩ := Store.serveFrame served
    rw [same]

theorem runFreshness (p : Procedure α) (surroundings : Surroundings) (w : World) :
    (p.run surroundings w).2.store.freshness = w.store.freshness :=
  runKeeps (motive := fun w' => w'.store.freshness = w.store.freshness)
    (fun attempted same => (attemptFreshness attempted).trans same) p rfl

theorem runInFreshness (p : Procedure α) (surroundings : Surroundings) (w : World) :
    (p.runIn surroundings w).2.store.freshness = w.store.freshness := by
  unfold runIn
  split <;> exact runFreshness _ _ _

end Procedure

namespace Api

def Request.wanted? (r : Request) : Option (List Spec) :=
  if r.path = Route.desired.path ∧ r.method = Route.desired.method then (records Spec r).toOption
  else none

theorem answerWanted {r : Request} {specs : List Spec} (wanted : r.wanted? = some specs) (now : Nat)
    (s : Service) : (s.answer now r).2.store = s.store.syncDesired specs now := by
  unfold Request.wanted? at wanted
  split at wanted
  · rename_i asked
    cases read : records Spec r with
    | error status => simp [read, Except.toOption] at wanted
    | ok found =>
      simp only [read, Except.toOption, Option.some.injEq] at wanted
      subst wanted
      have route : Route.ofPath? r.path = some .desired := by rw [asked.1]; rfl
      simp only [Service.answer, route, asked.2, if_true, respond, read]
  · cases wanted

theorem routePath {path : String} {route : Route} (found : Route.ofPath? path = some route) :
    path = route.path := by
  have chosen : route.path = path := by simpa using List.find?_some found
  exact chosen.symm

theorem respondOther {route : Route} (other : route ≠ .desired) (now : Nat) (r : Request) (s : Service) :
    (respond now r s route).2.store = s.store := by
  cases route with
  | heartbeats =>
    simp only [respond]
    split <;> rfl
  | desired => exact absurd rfl other
  | apps | pending | metrics => rfl

theorem answerOther {r : Request} (other : r.wanted? = none) (now : Nat) (s : Service) :
    (s.answer now r).2.store = s.store := by
  unfold Service.answer
  cases found : Route.ofPath? r.path with
  | none => rfl
  | some route =>
    simp only
    by_cases desired : route = .desired
    · subst desired
      have path : r.path = Route.desired.path := routePath found
      have never : ¬ Route.desired.method = "GET" := by decide
      simp only [never, and_false, if_false]
      split
      · rename_i method
        rw [Request.wanted?, if_pos ⟨path, method⟩] at other
        cases read : records Spec r with
        | error status => simp only [respond, read]
        | ok specs => simp [read, Except.toOption] at other
      · rfl
    · split
      · exact respondOther desired now r s
      · split
        · exact respondOther desired now r s
        · rfl

end Api

inductive Operation where
  | sync (specs : List Spec) (now : Nat)
  | save (heartbeats : List Heartbeat) (receivedAt : Nat)
  | markDesired (time : Nat)
  | markActual (time : Nat)
  | reap (now : Nat)
  | call (c : Call) (surroundings : Surroundings)
  | record (heartbeats : List Heartbeat) (receivedAt : Nat)
  | flush
  | request (r : Api.Request) (now : Nat)
  | perform (duty : Duty) (policy : Policy) (now : Nat) (surroundings : Surroundings)

namespace Operation

def apply (s : Service) : Operation → Service
  | .sync specs now => { s with store := s.store.syncDesired specs now }
  | .save heartbeats receivedAt => { s with store := s.store.saveActual heartbeats receivedAt }
  | .markDesired time => { s with store := s.store.markDesiredFresh time }
  | .markActual time => { s with store := s.store.markActualFresh time }
  | .reap now =>
      match s.store.reap now with
      | .ok r => { s with store := r.2 }
      | .error _ => s
  | .call c surroundings =>
      { s with store := ((Procedure.ask c).run surroundings ⟨s.store, []⟩).2.store }
  | .record heartbeats receivedAt => { s with intake := s.intake.record heartbeats receivedAt }
  | .flush => s.close
  | .request r now => (s.answer now r).2
  | .perform duty policy now surroundings => (s.perform policy now surroundings duty).2

def syncTime? : Operation → Option Nat
  | .sync _ now => some now
  | .request r now => r.wanted?.map fun _ => now
  | _ => none

variable {o : Operation} {s : Service} {now : Nat}

theorem syncStamps (syncs : o.syncTime? = some now) :
    (o.apply s).store.freshness = { s.store.freshness with desiredAt := now } := by
  cases o with
  | sync specs time =>
    cases syncs
    rfl
  | request r time =>
    obtain ⟨specs, wanted, rfl⟩ := Option.map_eq_some_iff.mp syncs
    rw [apply, Api.answerWanted wanted]
    rfl
  | _ => cases syncs

theorem otherAdvances (other : o.syncTime? = none) :
    Advances s.store.freshness (o.apply s).store.freshness := by
  cases o with
  | sync specs time => cases other
  | save heartbeats receivedAt => exact Store.savedAdvances _ _ _
  | markDesired time => exact ⟨Nat.le_max_left _ _, Nat.le_refl _⟩
  | markActual time => exact ⟨Nat.le_refl _, Nat.le_max_left _ _⟩
  | reap time =>
    simp only [apply]
    cases reaped : s.store.reap time with
    | error e => exact Freshness.advancesSame rfl
    | ok r => exact Freshness.advancesSame (Store.reapedFreshness reaped)
  | call c surroundings => exact Freshness.advancesSame (Procedure.runFreshness _ _ _)
  | record heartbeats receivedAt => exact Freshness.advancesSame rfl
  | flush => exact Store.flushAdvances s.intake s.store none
  | request r time =>
    have same := Api.answerOther (Option.map_eq_none_iff.mp other) time s
    exact Freshness.advancesSame (congrArg Store.freshness same)
  | perform duty policy time surroundings =>
    cases duty with
    | intake => exact Store.tickAdvances s.intake s.store time none
    | analysis => exact Freshness.advancesSame (Procedure.runInFreshness _ _ _)
    | dispatch => exact Freshness.advancesSame (Procedure.runInFreshness _ _ _)

theorem stampsAdvance (s : Service) (o : Operation) :
    s.store.freshness.actualAt ≤ (o.apply s).store.freshness.actualAt ∧
      (s.store.freshness.desiredAt ≤ (o.apply s).store.freshness.desiredAt ↔
        ∀ now, o.syncTime? = some now → s.store.freshness.desiredAt ≤ now) := by
  cases syncs : o.syncTime? with
  | none =>
    have advances := otherAdvances (s := s) syncs
    exact ⟨advances.actual, fun _ => nofun, fun _ => advances.desired⟩
  | some now =>
    rw [syncStamps syncs]
    refine ⟨Nat.le_refl _, fun ordered now' same => ?_, fun ordered => ordered now rfl⟩
    cases same
    exact ordered

theorem earlySyncRewinds :
    let s : Service := .ofStore ((Store.empty (.ofSecs 30)).syncDesired [] 1000)
    s.store.Reachable (.ofSecs 30) ∧
      ((Operation.sync [] 900).apply s).store.freshness.desiredAt < s.store.freshness.desiredAt :=
  ⟨.sync [] 1000 .empty, by decide⟩

end Operation
end Fleet
