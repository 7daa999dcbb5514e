import Fleet.Policy
import Fleet.Procedure
import Fleet.View

/-! What the cycles that keep the fleet have in common: the causes for which one ends
early, and the reading of a state that must be fresh. -/
namespace Fleet

inductive StateKind where
  | desired
  | actual
  deriving DecidableEq, Repr

def StateKind.name : StateKind → String
  | .desired => "desired"
  | .actual => "actual"

inductive Reading where
  | freshness
  | desiredState
  | actualState
  | crashCounts
  | starts
  | stops
  deriving DecidableEq, Repr

def Reading.name : Reading → String
  | .freshness => "freshness"
  | .desiredState => "desired state"
  | .actualState => "actual state"
  | .crashCounts => "crash counters"
  | .starts => "pending starts"
  | .stops => "pending stops"

inductive Writing where
  | messageIds
  | analysis
  | retiredStarts
  | retiredStops
  | sentStarts
  | sentStops
  deriving DecidableEq, Repr

def Writing.name : Writing → String
  | .messageIds => "message ids"
  | .analysis => "analysis"
  | .retiredStarts => "retired starts"
  | .retiredStops => "retired stops"
  | .sentStarts => "sent starts"
  | .sentStops => "sent stops"

inductive CycleError where
  | unread (what : Reading) (source : StoreError)
  | stale (what : StateKind) (refreshedAt now : Nat)
  | unwritten (what : Writing) (source : StoreError)
  | unsent (failed attempted : Nat)
  deriving DecidableEq, Repr

namespace CycleError

/-- The text of an error; one that an undecodable record caused has none that is fixed. -/
def message? : CycleError → Option String
  | .unread what source => source.message?.map fun m => "failed to read " ++ what.name ++ ": " ++ m
  | .stale what refreshedAt now =>
      some (what.name ++ " state is stale (last refreshed at " ++ toString refreshedAt ++ ", now " ++
        toString now ++ ")")
  | .unwritten what source =>
      source.message?.map fun m => "failed to persist " ++ what.name ++ ": " ++ m
  | .unsent failed attempted => some (toString failed ++ " of " ++ toString attempted ++ " sends failed")

end CycleError

abbrev Cycle := ExceptT CycleError Procedure

namespace Cycle

def read (c : Call) (what : Reading) : Cycle c.Reply :=
  .mk (.call c fun
    | .ok r => .done (.ok r)
    | .error e => .done (.error (.unread what e)))

def write (c : Call) (what : Writing) : Cycle c.Reply :=
  .mk (.call c fun
    | .ok r => .done (.ok r)
    | .error e => .done (.error (.unwritten what e)))

def halt {α : Type} (o : Overflow) : Cycle α := .mk (.halt o)

def requireFresh (now ttl : Nat) : Cycle Unit := do
  let f ← read .freshness .freshness
  if !f.desiredIsFresh now ttl then throw (.stale .desired f.desiredAt now)
  if !f.actualIsFresh now ttl then throw (.stale .actual f.actualAt now)

def snapshot (now : Nat) : Cycle Snapshot := do
  let desired ← read .desiredState .desiredState
  let actual ← read (.actualState now) .actualState
  return .ofState desired actual

end Cycle

end Fleet
