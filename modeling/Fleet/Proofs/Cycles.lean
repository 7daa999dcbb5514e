import Fleet.Analysis
import Fleet.Dispatch

/-! Running a cycle step by step: what each step returns, what it leaves in the world, and
where an error or an overflow ends the cycle. -/
namespace Fleet

def Surroundings.taking (accepts : Message → Bool) : Surroundings := { accepts }

namespace Cycle
variable {α β : Type} {s : Surroundings} {w w' : World} {accepts : Message → Bool}

theorem runBind (x : Cycle α) (f : α → Cycle β) (s : Surroundings) (w : World) :
    (x >>= f).run.run s w =
      match x.run.run s w with
      | (.ok (.ok a), w) => (f a).run.run s w
      | (.ok (.error e), w) => (.ok (.error e), w)
      | (.error o, w) => (.error o, w) := by
  refine (Procedure.runBind s x.run (ExceptT.bindCont f) w).trans ?_
  rcases x.run.run s w with ⟨(o | (e | a)), w'⟩ <;> rfl

theorem runBindOk {x : Cycle α} {f : α → Cycle β} {a : α}
    (h : x.run.run s w = (.ok (.ok a), w')) : (x >>= f).run.run s w = (f a).run.run s w' := by
  rw [runBind, h]

theorem runBindError {x : Cycle α} {f : α → Cycle β} {e : CycleError}
    (h : x.run.run s w = (.ok (.error e), w')) : (x >>= f).run.run s w = (.ok (.error e), w') := by
  rw [runBind, h]

theorem runBindHalt {x : Cycle α} {f : α → Cycle β} {o : Overflow}
    (h : x.run.run s w = (.error o, w')) : (x >>= f).run.run s w = (.error o, w') := by
  rw [runBind, h]

theorem runLift (p : Procedure α) (s : Surroundings) (w : World) :
    (ExceptT.lift p : Cycle α).run.run s w =
      match p.run s w with
      | (.ok a, w) => (.ok (.ok a), w)
      | (.error o, w) => (.error o, w) := by
  refine (Procedure.runBind s p (fun a => Procedure.done (Except.ok a)) w).trans ?_
  rcases p.run s w with ⟨(o | a), w'⟩ <;> rfl

theorem attemptTaking (c : Call) (w : World) :
    Procedure.attempt (.taking accepts) c w = w.serve accepts c := by
  simp [Procedure.attempt, Surroundings.taking]

theorem runWrite {c : Call} {what : Writing} {r : c.Reply}
    (served : w.serve accepts c = .ok (.ok r, w')) :
    (write c what).run.run (.taking accepts) w = (.ok (.ok r), w') := by
  simp only [write, ExceptT.run_mk, Procedure.run, attemptTaking, served]

def Fresh (now ttl : Nat) (s : Store) : Prop :=
  s.freshness.desiredIsFresh now ttl = true ∧ s.freshness.actualIsFresh now ttl = true

def Shows (s : Store) (now : Nat) (v : Snapshot) : Prop :=
  ∃ desired actual, s.desiredState = .ok desired ∧ s.actualState now = .ok actual ∧
    v = .ofState desired actual

theorem showsUnique {s : Store} {now : Nat} {v v' : Snapshot} (one : Shows s now v) (two : Shows s now v') :
    v = v' := by
  obtain ⟨desired, actual, hd, ha, rfl⟩ := one
  obtain ⟨desired', actual', hd', ha', rfl⟩ := two
  cases hd.symm.trans hd'
  cases ha.symm.trans ha'
  rfl

end Cycle
end Fleet
