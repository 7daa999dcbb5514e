import Fleet.Record.Heartbeat

/-! What is wanted and what is reported, side by side for every application. -/
namespace Fleet

structure View where
  app : App
  desired : Option Spec
  heartbeats : List Heartbeat
  deriving DecidableEq, Repr

namespace View

def bare (app : App) : View := ⟨app, none, []⟩

def target (v : View) : Nat :=
  match v.desired with
  | some s => s.target
  | none => 0

def isDesired (v : View) : Bool := v.desired.any Spec.wanted

def isStaging (v : View) : Bool := v.desired.any Spec.staging

def live (v : View) : List Heartbeat := v.heartbeats.filter Heartbeat.isLive

def liveAt (v : View) (index : Nat) : List Heartbeat :=
  v.heartbeats.filter fun h => h.index = index && h.isLive

theorem memLiveAt {v : View} {index : Nat} {h : Heartbeat} :
    h ∈ v.liveAt index ↔ h ∈ v.heartbeats ∧ h.index = index ∧ h.isLive = true := by
  simp [liveAt]

def hasCrashAt (v : View) (index : Nat) : Bool :=
  v.heartbeats.any fun h => h.index = index && h.isCrashed

def hasLive (v : View) : Bool := v.heartbeats.any Heartbeat.isLive

def byGuid? (v : View) (guid : String) : Option Heartbeat := v.heartbeats.find? (·.guid = guid)

def running (v : View) : Table Nat Nat :=
  v.live.foldl (fun t h => t.alter h.index fun n => n.getD 0 + 1) .empty

def satisfied (v : View) : Nat := (v.running.keys.filter (· < v.target)).length

def unsatisfied (v : View) : Binary64 :=
  if v.target = 0 then .zero else .ofRatio (v.target - v.satisfied) v.target

end View

structure Snapshot where
  views : Table App View

namespace Snapshot

def empty : Snapshot := ⟨.empty⟩

def change (s : Snapshot) (app : App) (f : View → View) : Snapshot :=
  ⟨s.views.alter app fun v => f (v.getD (.bare app))⟩

def want (s : Snapshot) (spec : Spec) : Snapshot :=
  s.change spec.app fun v => { v with desired := some spec }

def observe (s : Snapshot) (h : Heartbeat) : Snapshot :=
  s.change h.app fun v => { v with heartbeats := v.heartbeats ++ [h] }

def ofState (desired : List Spec) (actual : List Heartbeat) : Snapshot :=
  actual.foldl observe (desired.foldl want empty)

def view? (s : Snapshot) (app : App) : Option View := s.views.get? app

def apps (s : Snapshot) : List View := s.views.values

end Snapshot

end Fleet
