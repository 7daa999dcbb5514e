import Fleet.Admission
import Fleet.Arrange
import Fleet.Cycle

/-! The dispatch cycle: sends the pending actions that are due and still make sense, the
starts up to a limit and by priority. An action goes when it expires, is rejected, or
was sent for good; one that is sent again later is stamped with its first time. -/
namespace Fleet
namespace Dispatch

structure Report where
  startsSent : Nat
  stopsSent : Nat
  expired : Nat
  rejected : Nat
  waiting : Nat
  throttled : Nat
  failed : Nat
  deriving DecidableEq, Repr

def Report.toJson (r : Report) : Json :=
  .object [
    ("starts_sent", .nat r.startsSent),
    ("stops_sent", .nat r.stopsSent),
    ("expired", .nat r.expired),
    ("rejected", .nat r.rejected),
    ("waiting", .nat r.waiting),
    ("throttled", .nat r.throttled),
    ("failed", .nat r.failed)]

inductive Fate where
  | expired
  | waiting
  | rejected
  | due
  deriving DecidableEq, Repr

def fate (d : Delivery) (now : Nat) (rejection : Option Rejection) : Fate :=
  if d.isExpired now then .expired
  else if !d.isDue now then .waiting
  else if !d.skipVerification && rejection.isSome then .rejected
  else .due

def startFate (snapshot : Snapshot) (now : Nat) (s : Start) : Fate :=
  fate s.delivery now (s.rejection? snapshot)

def stopFate (snapshot : Snapshot) (now : Nat) (s : Stop) : Fate :=
  fate s.delivery now (s.rejection? snapshot)

def sendsBefore (a b : Start) : Bool :=
  ((b.priority.totalOrder a.priority).then
    ((compare a.delivery.sendOn b.delivery.sendOn).then
      (compare a.delivery.messageId b.delivery.messageId))).isLE

def runningOf (snapshot : Snapshot) (app : App) : Table Nat Nat :=
  match snapshot.view? app with
  | some v => v.running
  | none => .empty

def startMessage (snapshot : Snapshot) (s : Start) : Message :=
  .start (.ofStart s (runningOf snapshot s.app))

def stopMessage (snapshot : Snapshot) (s : Stop) : Message :=
  .stop (.ofStop s (runningOf snapshot s.app))

/-- Sends one message and counts it if it was taken; a count that is refused is let go. -/
def deliver (message : Message) (counter : String) : Procedure Bool :=
  .call (.send message) fun
    | .ok true => .call (.increment counter) fun _ => .done true
    | _ => .done false

structure Answered (α : Type) where
  taken : List α
  failed : Nat

def Answered.add {α : Type} (r : Answered α) (a : α) (took : Bool) : Answered α :=
  if took then { r with taken := a :: r.taken } else { r with failed := r.failed + 1 }

def deliverAll {α : Type} (message : α → Message) (counter : α → String) :
    List α → Procedure (Answered α)
  | [] => .done ⟨[], 0⟩
  | a :: rest =>
      (deliver (message a) (counter a)).bind fun took =>
        (deliverAll message counter rest).bind fun others => .done (others.add a took)

def stampStart (now : Nat) (s : Start) : Start := { s with delivery := s.delivery.markSent now }

def stampStop (now : Nat) (s : Stop) : Stop := { s with delivery := s.delivery.markSent now }

structure Sight where
  starts : List Start
  stops : List Stop
  snapshot : Snapshot

namespace Sight

def startsWith (g : Sight) (now : Nat) (f : Fate) : List Start :=
  g.starts.filter (startFate g.snapshot now · = f)

def stopsWith (g : Sight) (now : Nat) (f : Fate) : List Stop :=
  g.stops.filter (stopFate g.snapshot now · = f)

def dueStarts (g : Sight) (now : Nat) : List Start := arrange sendsBefore (g.startsWith now .due)

def tried (g : Sight) (policy : Policy) (now : Nat) : List Start :=
  (g.dueStarts now).take policy.sendLimit

def heldBack (g : Sight) (policy : Policy) (now : Nat) : List Start :=
  (g.dueStarts now).drop policy.sendLimit

def dueStops (g : Sight) (now : Nat) : List Stop := g.stopsWith now .due

end Sight

structure Sent where
  starts : List Start
  stops : List Stop
  failed : Nat

namespace Sent

def doneStarts (t : Sent) (g : Sight) (now : Nat) : List Start :=
  g.startsWith now .expired ++ g.startsWith now .rejected ++
    t.starts.filter (·.delivery.fireAndForget)

def doneStops (t : Sent) (g : Sight) (now : Nat) : List Stop :=
  g.stopsWith now .expired ++ g.stopsWith now .rejected ++
    t.stops.filter (·.delivery.fireAndForget)

def keptStarts (t : Sent) (now : Nat) : List Start :=
  (t.starts.filter fun s => !s.delivery.fireAndForget).map (stampStart now)

def keptStops (t : Sent) (now : Nat) : List Stop :=
  (t.stops.filter fun s => !s.delivery.fireAndForget).map (stampStop now)

end Sent

def look (policy : Policy) (now : Nat) : Cycle Sight := do
  Cycle.requireFresh now policy.freshnessTtl.secs
  let starts ← Cycle.read .starts .starts
  let stops ← Cycle.read .stops .stops
  let snapshot ← Cycle.snapshot now
  return ⟨starts, stops, snapshot⟩

def send (policy : Policy) (now : Nat) (g : Sight) : Procedure Sent :=
  (deliverAll (startMessage g.snapshot) (·.reason.counter) (g.tried policy now)).bind fun starts =>
    (deliverAll (stopMessage g.snapshot) (·.reason.counter) (g.dueStops now)).bind fun stops =>
      .done ⟨starts.taken, stops.taken, starts.failed + stops.failed⟩

def settle (now : Nat) (g : Sight) (t : Sent) : Cycle Unit := do
  let _ ← Cycle.write (.deleteStarts (t.doneStarts g now)) .retiredStarts
  let _ ← Cycle.write (.deleteStops (t.doneStops g now)) .retiredStops
  Cycle.write (.saveStarts (t.keptStarts now)) .sentStarts
  Cycle.write (.saveStops (t.keptStops now)) .sentStops

def conclude (policy : Policy) (now : Nat) (g : Sight) (t : Sent) : Except CycleError Report :=
  if t.failed > 0 then
    .error (.unsent t.failed ((g.tried policy now).length + (g.dueStops now).length))
  else .ok {
    startsSent := t.starts.length
    stopsSent := t.stops.length
    expired := (g.startsWith now .expired).length + (g.stopsWith now .expired).length
    rejected := (g.startsWith now .rejected).length + (g.stopsWith now .rejected).length
    waiting := (g.startsWith now .waiting).length + (g.stopsWith now .waiting).length
    throttled := (g.heldBack policy now).length
    failed := t.failed }

def cycle (policy : Policy) (now : Nat) : Cycle Report := do
  let g ← look policy now
  let t ← ExceptT.lift (send policy now g)
  settle now g t
  ExceptT.mk (.done (conclude policy now g t))

end Dispatch

def dispatch (policy : Policy) (now : Nat) (s : Surroundings) (w : World) :
    Except Overflow (Except CycleError Dispatch.Report) × World :=
  (Dispatch.cycle policy now).run.runIn s w

end Fleet
