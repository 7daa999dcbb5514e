import Fleet.Record.Action
import Fleet.View

/-! Whether an action that falls due still makes sense for what is seen at that time. -/
namespace Fleet

inductive Rejection where
  | appNotDesired
  | indexOutOfRange
  | indexAlreadyRunning
  | instanceGone
  | appStaging
  | instanceStillNeeded
  deriving DecidableEq, Repr

def Rejection.message : Rejection → String
  | .appNotDesired => "app is no longer desired"
  | .indexOutOfRange => "index is outside the desired instance count"
  | .indexAlreadyRunning => "index already has a live instance"
  | .instanceGone => "instance is no longer live"
  | .appStaging => "app is staging"
  | .instanceStillNeeded => "instance is the only one serving its index"

def Start.rejection? (s : Start) (snapshot : Snapshot) : Option Rejection :=
  match (snapshot.view? s.app).filter View.isDesired with
  | none => some .appNotDesired
  | some v =>
      if v.target ≤ s.index then some .indexOutOfRange
      else if !(v.liveAt s.index).isEmpty then some .indexAlreadyRunning
      else none

def View.spares (v : View) (h : Heartbeat) : Bool :=
  v.target ≤ h.index || (v.liveAt h.index).any (·.guid ≠ h.guid) || h.isEvacuating || !v.isDesired

def Stop.rejection? (s : Stop) (snapshot : Snapshot) : Option Rejection :=
  match snapshot.view? s.app with
  | none => some .instanceGone
  | some v =>
      match (v.byGuid? s.guid).filter Heartbeat.isLive with
      | none => some .instanceGone
      | some h =>
          if v.isStaging then some .appStaging
          else if v.spares h then none
          else some .instanceStillNeeded

end Fleet
