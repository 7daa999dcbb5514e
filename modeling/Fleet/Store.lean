import Fleet.Record.Action
import Fleet.Record.Freshness
import Fleet.Span
import Fleet.Store.Rows

/-! The store of the wanted state, the reported state, the crash counts and the actions
that wait to be sent, with the message ids given out so far. -/
namespace Fleet

structure Store where
  desired : Rows Spec
  actual : Rows Heartbeat
  crashCounts : Rows CrashCount
  starts : Rows Start
  stops : Rows Stop
  metrics : Table String Nat
  freshness : Freshness
  lastId : Nat
  heartbeatTtl : Nat

namespace Store

def empty (heartbeatTtl : Span) : Store :=
  ⟨.empty, .empty, .empty, .empty, .empty, .empty, ⟨0, 0⟩, 0, heartbeatTtl.secs⟩

def desiredState (s : Store) : Except StoreError (List Spec) := s.desired.scan

def desiredOf (s : Store) (app : App) : Except StoreError (Option Spec) :=
  match s.desired.get? app.key with
  | some row => row.read.map some
  | none => .ok none

def actualState (s : Store) (now : Nat) : Except StoreError (List Heartbeat) :=
  s.actual.scan.map fun hs => hs.filter (·.isCurrent s.heartbeatTtl now)

def markDesiredFresh (s : Store) (time : Nat) : Store :=
  { s with freshness := { s.freshness with desiredAt := max s.freshness.desiredAt time } }

def markActualFresh (s : Store) (time : Nat) : Store :=
  { s with freshness := { s.freshness with actualAt := max s.freshness.actualAt time } }

/-- Replaces the whole wanted state and sets its stamp, be it earlier than the old one. -/
def syncDesired (s : Store) (specs : List Spec) (now : Nat) : Store :=
  { s with
    desired := Rows.put (fun spec => spec.app.key) .empty specs
    freshness := { s.freshness with desiredAt := now } }

def saveActual (s : Store) (heartbeats : List Heartbeat) (receivedAt : Nat) : Store :=
  { s with actual := s.actual.put Heartbeat.key heartbeats }.markActualFresh receivedAt

def reap (s : Store) (now : Nat) : Except StoreError (Nat × Store) :=
  s.actual.scan.map fun hs =>
    let gone := hs.filter fun h => !h.isCurrent s.heartbeatTtl now
    let r := s.actual.remove (gone.map Heartbeat.key)
    (r.1, { s with actual := r.2 })

def saveCrashCounts (s : Store) (counts : List CrashCount) : Store :=
  { s with crashCounts := s.crashCounts.put CrashCount.key counts }

def deleteCrashCounts (s : Store) (counts : List CrashCount) : Nat × Store :=
  let r := s.crashCounts.remove (counts.map CrashCount.key)
  (r.1, { s with crashCounts := r.2 })

def saveStarts (s : Store) (starts : List Start) : Store :=
  { s with starts := s.starts.put Start.key starts }

def deleteStarts (s : Store) (starts : List Start) : Nat × Store :=
  let r := s.starts.remove (starts.map Start.key)
  (r.1, { s with starts := r.2 })

def saveStops (s : Store) (stops : List Stop) : Store := { s with stops := s.stops.put Stop.key stops }

def deleteStops (s : Store) (stops : List Stop) : Nat × Store :=
  let r := s.stops.remove (stops.map Stop.key)
  (r.1, { s with stops := r.2 })

def saveAnalysis (s : Store) (starts : List Start) (stops : List Stop)
    (counts : List CrashCount) : Store :=
  { s with
    starts := s.starts.put Start.key starts
    stops := s.stops.put Stop.key stops
    crashCounts := s.crashCounts.put CrashCount.key counts }

def reserveIds (s : Store) (count : Nat) : Except Overflow (Nat × Store) := do
  let first ← exactSum s.lastId 1
  let last ← exactSum s.lastId count
  .ok (first, { s with lastId := last })

def increment (s : Store) (metric : String) : Except Overflow (Nat × Store) := do
  let next ← exactSum ((s.metrics.get? metric).getD 0) 1
  .ok (next, { s with metrics := s.metrics.insert metric next })

end Store

end Fleet
