import Fleet.Intake
import Fleet.Proofs.Turns

/-! What a store has come to after any sequence of synchronizations, flushes, reaps and
cycles, the cycles with any calls refused and any messages taken. Its records stand under
their own keys, and its pending stops are all to be verified before they are sent. -/
namespace Fleet

inductive Deed where
  | sync (specs : List Spec) (now : Nat)
  | flush (batch : Intake)
  | reap (now : Nat)
  | analysis (now : Nat) (failing : List String)
  | dispatch (now : Nat) (failing : List String) (accepts : Message → Bool)

def Deed.apply (policy : Policy) (s : Store) : Deed → Store
  | .sync specs now => s.syncDesired specs now
  | .flush batch => (batch.flush s).store
  | .reap now =>
      match s.reap now with
      | .ok r => r.2
      | .error _ => s
  | .analysis now failing => (analyze policy now { failing } ⟨s, []⟩).2.store
  | .dispatch now failing accepts => (Fleet.dispatch policy now { failing, accepts } ⟨s, []⟩).2.store

def Store.after (policy : Policy) (ttl : Span) (deeds : List Deed) : Store :=
  deeds.foldl (Deed.apply policy) (.empty ttl)

structure Store.Regular (s : Store) : Prop where
  actual : Rows.Own Heartbeat.key s.actual
  starts : Rows.Own Start.key s.starts
  stops : Rows.Own Stop.key s.stops
  startsGuarded : Queue.starts.Guarded s.starts
  stopsGuarded : Queue.stops.Guarded s.stops

namespace Shared
variable {policy : Policy} {s : Shared} {side : Side}

theorem runTurns {p : Procedure Unit} (surroundings : Surroundings) (task : s.tasks side = p) :
    ∃ s', Run policy s s' ∧ s'.world = (p.run surroundings s.world).2 := by
  induction p generalizing s with
  | done a => exact ⟨s, .refl, rfl⟩
  | halt o => exact ⟨s, .refl, rfl⟩
  | call c next ih =>
    rw [Procedure.run]
    split
    · rename_i o served
      exact ⟨_, .single (.halt task served), rfl⟩
    · rename_i reply w served
      have step : Step policy s (s.turn side (next reply) w (.called side c reply)) :=
        .call task served
      obtain ⟨s', run, same⟩ := ih reply (s := s.turn side (next reply) w (.called side c reply))
        (Function.update_self ..)
      exact ⟨s', run.head step, same⟩

def fresh (w : World) : Shared := ⟨w, fun _ => .done (), []⟩

theorem cycleTurns (policy : Policy) (side : Side) (now : Nat) (surroundings : Surroundings) (w : World) :
    ∃ s', Run policy (fresh w) s' ∧
      s'.world = ((side.cycle policy now).run surroundings w).2 := by
  have step : Step policy (fresh w) _ := .begin side now (fun c next h => nomatch h)
  obtain ⟨s', run, same⟩ := runTurns surroundings
    (s := (fresh w).turn side (side.cycle policy now) w (.begun side now)) (Function.update_self ..)
  exact ⟨s', run.head step, same⟩

end Shared

namespace Procedure
variable {α : Type} {surroundings : Surroundings}

theorem attemptServed {c : Call} {w w' : World} {r : Except StoreError c.Reply}
    (attempted : attempt surroundings c w = .ok (r, w')) :
    w' = w ∨ w.serve surroundings.accepts c = .ok (r, w') := by
  unfold attempt at attempted
  split at attempted
  · cases attempted
    exact .inl rfl
  · exact .inr attempted

theorem runKeeps {motive : World → Prop}
    (each : ∀ {c : Call} {w w' : World} {r : Except StoreError c.Reply},
      attempt surroundings c w = .ok (r, w') → motive w → motive w')
    (p : Procedure α) {w : World} (first : motive w) : motive (p.run surroundings w).2 := by
  induction p generalizing w with
  | done a => exact first
  | halt o => exact first
  | call c next ih =>
    rw [run]
    split
    · exact first
    · rename_i r w' attempted
      exact ih r (each attempted first)

structure Acts (s s' : Store) : Prop where
  desired : s'.desired = s.desired
  actual : s'.actual = s.actual
  filed : Rows.Own CrashCount.key s.crashCounts → Rows.Own CrashCount.key s'.crashCounts

theorem actsNothing (s : Store) : Acts s s := ⟨rfl, rfl, id⟩

theorem actsTrans {s t u : Store} (first : Acts s t) (rest : Acts t u) : Acts s u :=
  ⟨rest.desired.trans first.desired, rest.actual.trans first.actual, rest.filed ∘ first.filed⟩

theorem attemptActs {c : Call} {w w' : World} {r : Except StoreError c.Reply}
    (attempted : attempt surroundings c w = .ok (r, w')) : Acts w.store w'.store := by
  rcases attemptServed attempted with rfl | served
  · exact actsNothing _
  cases c with
  | reserveIds n =>
    obtain ⟨lastId, rfl⟩ := World.reserved served
    exact ⟨rfl, rfl, id⟩
  | increment m =>
    obtain ⟨metrics, rfl⟩ := World.incremented served
    exact ⟨rfl, rfl, id⟩
  | saveCrashCounts counts =>
    cases served
    exact ⟨rfl, rfl, fun own => Rows.ownPut CrashCount.settleKey own counts⟩
  | saveAnalysis starts stops counts =>
    cases served
    exact ⟨rfl, rfl, fun own => Rows.ownPut CrashCount.settleKey own counts⟩
  | deleteCrashCounts counts =>
    cases served
    exact ⟨rfl, rfl, fun own => Rows.ownRemove own _⟩
  | _ =>
    cases served
    exact ⟨rfl, rfl, id⟩

theorem runActs (p : Procedure α) (surroundings : Surroundings) (w : World) :
    Acts w.store (p.run surroundings w).2.store :=
  runKeeps (motive := fun w' => Acts w.store w'.store)
    (fun attempted acts => actsTrans acts (attemptActs attempted)) p (actsNothing _)

theorem bindDoneWorld (p : Procedure α) (w : World) :
    ((p.bind fun _ => .done ()).run surroundings w).2 = (p.run surroundings w).2 := by
  rw [runBind]
  rcases p.run surroundings w with ⟨(o | a), w'⟩ <;> rfl

end Procedure

namespace Store
variable {policy : Policy} {s : Store}

theorem queueTurns {α : Type} [Record α] {q : Queue α} (tended : q.Tended policy)
    (own : Rows.Own q.key (q.rows s)) (guarded : q.Guarded (q.rows s)) {s' : Shared}
    (run : Shared.Run policy (.fresh ⟨s, []⟩) s') :
    Rows.Own q.key (q.rows s'.world.store) ∧ q.Guarded (q.rows s'.world.store) := by
  have holds := Queue.openingHolds (s := .fresh ⟨s, []⟩) q (fun _ => rfl) own
  obtain ⟨⟨seen, held, holds'⟩, _⟩ := Queue.runLasts tended holds run
  exact ⟨holds'.sound.own, Queue.runGuarded tended holds guarded run⟩

theorem cycleRegular (regular : s.Regular) (side : Side) (now : Nat) (surroundings : Surroundings) :
    ((side.cycle policy now).run surroundings ⟨s, []⟩).2.store.Regular := by
  have actual := ((side.cycle policy now).runActs surroundings ⟨s, []⟩).actual
  obtain ⟨s', run, same⟩ := Shared.cycleTurns policy side now surroundings ⟨s, []⟩
  obtain ⟨starts, startsGuarded⟩ :=
    queueTurns (Queue.startsTended policy) regular.starts regular.startsGuarded run
  obtain ⟨stops, stopsGuarded⟩ :=
    queueTurns (Queue.stopsTended policy) regular.stops regular.stopsGuarded run
  rw [same] at starts startsGuarded stops stopsGuarded
  exact ⟨actual ▸ regular.actual, starts, stops, startsGuarded, stopsGuarded⟩

theorem emptyRegular (ttl : Span) : (empty ttl).Regular where
  actual := Rows.ownEmpty
  starts := Rows.ownEmpty
  stops := Rows.ownEmpty
  startsGuarded k row r found := by cases found
  stopsGuarded k row r found := by cases found

theorem deedRegular (regular : s.Regular) (deed : Deed) : (deed.apply policy s).Regular := by
  cases deed with
  | sync specs now => exact { regular with }
  | flush batch =>
    rw [Deed.apply, Intake.flushStore]
    split
    · exact regular
    · exact { regular with actual := Rows.ownPut Heartbeat.settleKey regular.actual _ }
  | reap now =>
    simp only [Deed.apply, reap]
    cases s.actual.scan with
    | error e => exact regular
    | ok hs => exact { regular with actual := Rows.ownRemove regular.actual _ }
  | analysis now failing =>
    have cycle := @cycleRegular policy s regular .analyzer now { failing }
    rw [Side.cycle, Procedure.bindDoneWorld] at cycle
    exact cycle
  | dispatch now failing accepts =>
    have cycle := @cycleRegular policy s regular .dispatcher now { failing, accepts }
    rw [Side.cycle, Procedure.bindDoneWorld] at cycle
    exact cycle

theorem afterRegular (policy : Policy) (ttl : Span) (deeds : List Deed) :
    (after policy ttl deeds).Regular :=
  List.foldlRecOn (motive := Regular) deeds _ (emptyRegular ttl)
    fun _ regular deed _ => deedRegular regular deed

end Store
end Fleet
