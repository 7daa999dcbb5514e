import Fleet.Analysis
import Fleet.Dispatch
import Fleet.Intake

/-! The service: a store with its intake buffer, and the duties that it does again and
again until it is told to stop. -/
namespace Fleet

structure Service where
  store : Store
  intake : Intake

inductive Duty where
  | intake
  | analysis
  | dispatch
  deriving DecidableEq, Repr

namespace Service

def ofStore (s : Store) : Service := ⟨s, .empty⟩

def done {α : Type} (s : Service) (r : Except Overflow (Except CycleError α) × World) :
    Except Overflow (Except CycleError Unit) × Service :=
  (r.1.map fun e => e.map fun _ => (), { s with store := r.2.store })

def perform (p : Policy) (now : Nat) (surroundings : Surroundings) (s : Service) :
    Duty → Except Overflow (Except CycleError Unit) × Service
  | .intake =>
      let (intake, store) := s.intake.tick s.store now
      (.ok (.ok ()), ⟨store, intake⟩)
  | .analysis => s.done (analyze p now surroundings ⟨s.store, []⟩)
  | .dispatch => s.done (dispatch p now surroundings ⟨s.store, []⟩)

def close (s : Service) : Service :=
  let f := s.intake.flush s.store
  ⟨f.store, f.intake⟩

end Service
end Fleet
