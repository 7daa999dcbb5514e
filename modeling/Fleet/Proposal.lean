import Fleet.Arrange
import Fleet.CrashLog
import Fleet.Policy
import Fleet.Record.Action
import Fleet.View

/-! What would bring an application to its target: starts for the indices that nobody
serves, and only when there are none, stops for the instances that are too many. -/
namespace Fleet

inductive Need where
  | served
  /-- It crashed while no instance of the app is live, and is not the first: it waits for one. -/
  | gated
  | missing
  | crashed
  | evacuating
  deriving DecidableEq, Repr

def View.need (v : View) (index : Nat) : Need :=
  if (v.liveAt index).isEmpty then
    if !v.hasCrashAt index then .missing
    else if index ≠ 0 && !v.hasLive then .gated
    else .crashed
  else if (v.liveAt index).all Heartbeat.isEvacuating then .evacuating
  else .served

structure Proposal where
  starts : List Start
  stops : List Stop
  crashCounts : List CrashCount
  deriving DecidableEq

namespace Proposal

def nothing : Proposal := ⟨[], [], []⟩

def isEmpty (p : Proposal) : Bool := p.starts.isEmpty && p.stops.isEmpty

def delivery (sendOn keepAlive : Nat) (skip : Bool) : Delivery := ⟨0, sendOn, 0, keepAlive, skip⟩

variable (policy : Policy) (log : CrashLog) (now : Nat)

def startFor (v : View) (index : Nat) : Option Start :=
  let start (reason : StartReason) (d : Delivery) : Start := ⟨v.app, index, reason, v.unsatisfied, d⟩
  let grace := policy.grace.secs
  match v.need index with
  | .served => none
  | .gated => none
  | .missing => some (start .missing (delivery (after now grace) 0 false))
  | .crashed =>
      let wait := policy.backoff.delay (log.count v.app index now).count
      some (start .crashed (delivery (after now wait.secs) grace false))
  | .evacuating => some (start .evacuating (delivery now grace true))

def crashFor (v : View) (index : Nat) : Option CrashCount :=
  if v.need index = .crashed then some (log.count v.app index now).increment else none

def stopOf (h : Heartbeat) (reason : StopReason) (sendOn : Nat) : Stop :=
  ⟨h.app, h.index, h.guid, reason, delivery sendOn policy.grace.secs false⟩

def keepsBefore (a b : Heartbeat) : Bool :=
  match compare (a.state ≠ .running : Bool) (b.state ≠ .running : Bool) with
  | .lt => true
  | .gt => false
  | .eq => (compare a.guid b.guid).isLE

def extraStops (v : View) : List Stop :=
  (v.heartbeats.filter fun h => h.isLive && v.target ≤ h.index).map fun h => stopOf policy h .extra now

def staggered (rank : Nat) : List Heartbeat → List Stop
  | [] => []
  | h :: rest =>
      stopOf policy h .duplicate (after now (repeated rank policy.grace.secs)) ::
        staggered (rank + 1) rest

def stopsAt (v : View) (index : Nat) : List Stop :=
  let evacuating := (v.liveAt index).filter Heartbeat.isEvacuating
  let serving := (v.liveAt index).filter fun h => !h.isEvacuating
  if serving.isEmpty then []
  else
    (evacuating.map fun h => stopOf policy h .evacuationComplete now) ++
      staggered policy now 1 ((arrange keepsBefore serving).drop 1)

def stopsFor (v : View) : List Stop :=
  extraStops policy now v ++ (List.range v.target).flatMap (stopsAt policy now v)

def ofView (v : View) : Proposal :=
  if v.isStaging then nothing
  else
    let starts := (List.range v.target).filterMap (startFor policy log now v)
    let crashes := (List.range v.target).filterMap (crashFor log now v)
    ⟨starts, if starts.isEmpty then stopsFor policy now v else [], crashes⟩

end Proposal

end Fleet
