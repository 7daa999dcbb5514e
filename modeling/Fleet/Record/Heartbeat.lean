import Fleet.Record.App

/-! What instances report of themselves, and the counts of their crashes. -/
namespace Fleet

inductive InstanceState where
  | starting
  | running
  | evacuating
  | crashed
  deriving DecidableEq, Repr

namespace InstanceState

def name : InstanceState → String
  | .starting => "starting"
  | .running => "running"
  | .evacuating => "evacuating"
  | .crashed => "crashed"

def all : List InstanceState := [.starting, .running, .evacuating, .crashed]

def ofName? (s : String) : Option InstanceState := all.find? (·.name = s)

@[simp] theorem ofName (x : InstanceState) : ofName? x.name = some x := by cases x <;> rfl

end InstanceState

structure Heartbeat where
  app : App
  index : Nat
  guid : String
  state : InstanceState
  reportedAt : Nat
  deriving DecidableEq, Repr

namespace Heartbeat

def key (h : Heartbeat) : String := h.app.guidKey h.guid

def isLive (h : Heartbeat) : Bool := h.state ≠ .crashed

def isCrashed (h : Heartbeat) : Bool := h.state = .crashed

def isEvacuating (h : Heartbeat) : Bool := h.state = .evacuating

def isCurrent (ttl now : Nat) (h : Heartbeat) : Bool := now - h.reportedAt ≤ ttl

instance : Record Heartbeat where
  slots := [
    { name := "app_id", kind := .text },
    { name := "app_version", kind := .text },
    { name := "instance_index", kind := .whole Bounds.count },
    { name := "instance_guid", kind := .text },
    { name := "state", kind := .choice (InstanceState.all.map InstanceState.name) },
    { name := "reported_at", kind := .whole Bounds.instant }]
  toCells h := [.text h.app.id, .text h.app.version, .whole h.index, .text h.guid,
    .choice h.state.name, .whole h.reportedAt]
  ofCells?
    | [.text id, .text version, .whole index, .text guid, .choice state, .whole reportedAt] => do
        let state ← InstanceState.ofName? state
        some ⟨⟨id, version⟩, index, guid, state, reportedAt⟩
    | _ => none

end Heartbeat

structure CrashCount where
  app : App
  index : Nat
  count : Nat
  createdAt : Nat
  deriving DecidableEq, Repr

namespace CrashCount

def key (c : CrashCount) : String := c.app.indexKey c.index

def isCurrent (ttl now : Nat) (c : CrashCount) : Bool := now - c.createdAt < ttl

def increment (c : CrashCount) : CrashCount := { c with count := min (c.count + 1) Bounds.count }

instance : Record CrashCount where
  slots := [
    { name := "app_id", kind := .text },
    { name := "app_version", kind := .text },
    { name := "instance_index", kind := .whole Bounds.count },
    { name := "count", kind := .whole Bounds.count },
    { name := "created_at", kind := .whole Bounds.instant }]
  toCells c := [.text c.app.id, .text c.app.version, .whole c.index, .whole c.count,
    .whole c.createdAt]
  ofCells?
    | [.text id, .text version, .whole index, .whole count, .whole createdAt] =>
        some ⟨⟨id, version⟩, index, count, createdAt⟩
    | _ => none

end CrashCount

end Fleet
