import Fleet.Record.Message
import Fleet.Store

/-! Procedures: sequences of calls to the store and to the receiver of messages, each
call on its own indivisible. A procedure may be run alone, with some calls refused, or
its calls may be taken in turns with those of another. -/
namespace Fleet

inductive Message where
  | start (message : StartMessage)
  | stop (message : StopMessage)
  deriving DecidableEq

inductive Call where
  | freshness
  | desiredState
  | actualState (now : Nat)
  | crashCounts
  | starts
  | stops
  | saveCrashCounts (counts : List CrashCount)
  | deleteCrashCounts (counts : List CrashCount)
  | saveStarts (starts : List Start)
  | saveStops (stops : List Stop)
  | deleteStarts (starts : List Start)
  | deleteStops (stops : List Stop)
  | saveAnalysis (starts : List Start) (stops : List Stop) (counts : List CrashCount)
  | reserveIds (count : Nat)
  | increment (metric : String)
  | metrics
  | send (message : Message)

namespace Call

@[reducible] def Reply : Call → Type
  | .freshness => Freshness
  | .desiredState => List Spec
  | .actualState _ => List Heartbeat
  | .crashCounts => List CrashCount
  | .starts => List Start
  | .stops => List Stop
  | .saveCrashCounts _ => Unit
  | .deleteCrashCounts _ => Nat
  | .saveStarts _ => Unit
  | .saveStops _ => Unit
  | .deleteStarts _ => Nat
  | .deleteStops _ => Nat
  | .saveAnalysis _ _ _ => Unit
  | .reserveIds _ => Nat
  | .increment _ => Nat
  | .metrics => List (String × Nat)
  | .send _ => Bool

def name : Call → String
  | .freshness => "get_freshness"
  | .desiredState => "get_desired_state"
  | .actualState _ => "get_actual_state"
  | .crashCounts => "get_crash_counters"
  | .starts => "get_pending_starts"
  | .stops => "get_pending_stops"
  | .saveCrashCounts _ => "save_crash_counters"
  | .deleteCrashCounts _ => "delete_crash_counters"
  | .saveStarts _ => "save_pending_starts"
  | .saveStops _ => "save_pending_stops"
  | .deleteStarts _ => "delete_pending_starts"
  | .deleteStops _ => "delete_pending_stops"
  | .saveAnalysis _ _ _ => "save_analysis"
  | .reserveIds _ => "allocate_message_ids"
  | .increment _ => "increment_metric"
  | .metrics => "get_metrics"
  | .send _ => "send"

end Call

structure World where
  store : Store
  sent : List (Message × Bool)

structure Surroundings where
  failing : List String := []
  splitSave : Bool := false
  accepts : Message → Bool := fun _ => true

namespace World

def withStore (w : World) {α : Type} (r : α × Store) : Except StoreError α × World :=
  (.ok r.1, { w with store := r.2 })

def withRead (w : World) {α : Type} (r : Except StoreError α) : Except StoreError α × World := (r, w)

def serve (w : World) (accepts : Message → Bool) :
    (c : Call) → Except Overflow (Except StoreError c.Reply × World)
  | .freshness => .ok (w.withRead (.ok w.store.freshness))
  | .desiredState => .ok (w.withRead w.store.desiredState)
  | .actualState now => .ok (w.withRead (w.store.actualState now))
  | .crashCounts => .ok (w.withRead w.store.crashCounts.scan)
  | .starts => .ok (w.withRead w.store.starts.scan)
  | .stops => .ok (w.withRead w.store.stops.scan)
  | .saveCrashCounts counts => .ok (w.withStore ((), w.store.saveCrashCounts counts))
  | .deleteCrashCounts counts => .ok (w.withStore (w.store.deleteCrashCounts counts))
  | .saveStarts starts => .ok (w.withStore ((), w.store.saveStarts starts))
  | .saveStops stops => .ok (w.withStore ((), w.store.saveStops stops))
  | .deleteStarts starts => .ok (w.withStore (w.store.deleteStarts starts))
  | .deleteStops stops => .ok (w.withStore (w.store.deleteStops stops))
  | .saveAnalysis starts stops counts =>
      .ok (w.withStore ((), w.store.saveAnalysis starts stops counts))
  | .reserveIds count => (w.store.reserveIds count).map w.withStore
  | .increment metric => (w.store.increment metric).map w.withStore
  | .metrics => .ok (w.withRead (.ok w.store.metrics.entries))
  | .send message =>
      let taken := accepts message
      .ok (.ok taken, { w with sent := w.sent ++ [(message, taken)] })

end World

inductive Procedure (α : Type) where
  | done (result : α)
  | halt (overflow : Overflow)
  | call (c : Call) (next : Except StoreError c.Reply → Procedure α)

namespace Procedure
variable {α β : Type}

def bind : Procedure α → (α → Procedure β) → Procedure β
  | .done a, f => f a
  | .halt o, _ => .halt o
  | .call c next, f => .call c fun r => (next r).bind f

instance : Monad Procedure where
  pure := .done
  bind := bind

def ask (c : Call) : Procedure (Except StoreError c.Reply) := .call c .done

def saveInTurn (starts : List Start) (stops : List Stop) (counts : List CrashCount) :
    Procedure (Except StoreError Unit) :=
  .call (.saveStarts starts) fun
    | .error e => .done (.error e)
    | .ok _ => .call (.saveStops stops) fun
      | .error e => .done (.error e)
      | .ok _ => .call (.saveCrashCounts counts) .done

def attempt (s : Surroundings) (c : Call) (w : World) :
    Except Overflow (Except StoreError c.Reply × World) :=
  if c.name ∈ s.failing then .ok (.error (.unavailable c.name), w) else w.serve s.accepts c

def run (s : Surroundings) : Procedure α → World → Except Overflow α × World
  | .done a, w => (.ok a, w)
  | .halt o, w => (.error o, w)
  | .call c next, w =>
      match attempt s c w with
      | .error o => (.error o, w)
      | .ok (r, w) => (next r).run s w

def split : Procedure α → Procedure α
  | .done a => .done a
  | .halt o => .halt o
  | .call (.saveAnalysis starts stops counts) next =>
      (saveInTurn starts stops counts).bind fun r => (next r).split
  | .call c next => .call c fun r => (next r).split

def runIn (s : Surroundings) (p : Procedure α) (w : World) : Except Overflow α × World :=
  if s.splitSave then p.split.run s w else p.run s w

theorem runBind (s : Surroundings) (p : Procedure α) (f : α → Procedure β) (w : World) :
    (p.bind f).run s w =
      match p.run s w with
      | (.ok a, w) => (f a).run s w
      | (.error o, w) => (.error o, w) := by
  induction p generalizing w with
  | done a => rfl
  | halt o => rfl
  | call c next ih =>
    simp only [bind, run]
    split
    · rfl
    · exact ih _ _

end Procedure

end Fleet
