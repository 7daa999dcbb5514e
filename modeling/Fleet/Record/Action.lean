import Fleet.Record.Heartbeat

/-! Starts and stops that wait to be sent, and the part that both share: when an action
falls due, whether it has been sent, and until when it is sent again. -/
namespace Fleet

structure Delivery where
  messageId : Nat
  sendOn : Nat
  /-- When it was first sent; zero while it has not been. -/
  sentOn : Nat
  keepAlive : Nat
  skipVerification : Bool
  deriving DecidableEq, Repr

namespace Delivery

def isSent (d : Delivery) : Bool := d.sentOn ≠ 0

def isExpired (d : Delivery) (now : Nat) : Bool := d.isSent && after d.sentOn d.keepAlive ≤ now

def isDue (d : Delivery) (now : Nat) : Bool := d.sendOn ≤ now

def fireAndForget (d : Delivery) : Bool := d.keepAlive = 0

def markSent (d : Delivery) (now : Nat) : Delivery := if d.isSent then d else { d with sentOn := now }

end Delivery

inductive StartReason where
  | missing
  | crashed
  | evacuating
  deriving DecidableEq, Repr

namespace StartReason

def name : StartReason → String
  | .missing => "missing"
  | .crashed => "crashed"
  | .evacuating => "evacuating"

def all : List StartReason := [.missing, .crashed, .evacuating]

def ofName? (s : String) : Option StartReason := all.find? (·.name = s)

@[simp] theorem ofName (x : StartReason) : ofName? x.name = some x := by cases x <;> rfl

def counter (x : StartReason) : String := "starts_" ++ x.name

end StartReason

inductive StopReason where
  | extra
  | duplicate
  | evacuationComplete
  deriving DecidableEq, Repr

namespace StopReason

def name : StopReason → String
  | .extra => "extra"
  | .duplicate => "duplicate"
  | .evacuationComplete => "evacuation_complete"

def all : List StopReason := [.extra, .duplicate, .evacuationComplete]

def ofName? (s : String) : Option StopReason := all.find? (·.name = s)

@[simp] theorem ofName (x : StopReason) : ofName? x.name = some x := by cases x <;> rfl

def counter (x : StopReason) : String := "stops_" ++ x.name

end StopReason

structure Start where
  app : App
  index : Nat
  reason : StartReason
  priority : Binary64
  delivery : Delivery
  deriving DecidableEq, Repr

namespace Start

def key (s : Start) : String := s.app.indexKey s.index

instance : Record Start where
  slots := [
    { name := "app_id", kind := .text },
    { name := "app_version", kind := .text },
    { name := "instance_index", kind := .whole Bounds.count },
    { name := "message_id", kind := .whole Bounds.instant },
    { name := "send_on", kind := .whole Bounds.instant },
    { name := "sent_on", kind := .whole Bounds.instant },
    { name := "keep_alive", kind := .whole Bounds.instant },
    { name := "priority", kind := .real },
    { name := "reason", kind := .choice (StartReason.all.map StartReason.name) },
    { name := "skip_verification", kind := .flag }]
  toCells s := [.text s.app.id, .text s.app.version, .whole s.index, .whole s.delivery.messageId,
    .whole s.delivery.sendOn, .whole s.delivery.sentOn, .whole s.delivery.keepAlive,
    .real s.priority, .choice s.reason.name, .flag s.delivery.skipVerification]
  ofCells?
    | [.text id, .text version, .whole index, .whole message, .whole sendOn, .whole sentOn,
        .whole keepAlive, .real priority, .choice reason, .flag skip] => do
        let reason ← StartReason.ofName? reason
        some ⟨⟨id, version⟩, index, reason, priority, ⟨message, sendOn, sentOn, keepAlive, skip⟩⟩
    | _ => none

end Start

structure Stop where
  app : App
  index : Nat
  guid : String
  reason : StopReason
  delivery : Delivery
  deriving DecidableEq, Repr

namespace Stop

def key (s : Stop) : String := s.guid

instance : Record Stop where
  slots := [
    { name := "app_id", kind := .text },
    { name := "app_version", kind := .text },
    { name := "instance_index", kind := .whole Bounds.count },
    { name := "instance_guid", kind := .text },
    { name := "message_id", kind := .whole Bounds.instant },
    { name := "send_on", kind := .whole Bounds.instant },
    { name := "sent_on", kind := .whole Bounds.instant },
    { name := "keep_alive", kind := .whole Bounds.instant },
    { name := "reason", kind := .choice (StopReason.all.map StopReason.name) },
    { name := "skip_verification", kind := .flag }]
  toCells s := [.text s.app.id, .text s.app.version, .whole s.index, .text s.guid,
    .whole s.delivery.messageId, .whole s.delivery.sendOn, .whole s.delivery.sentOn,
    .whole s.delivery.keepAlive, .choice s.reason.name, .flag s.delivery.skipVerification]
  ofCells?
    | [.text id, .text version, .whole index, .text guid, .whole message, .whole sendOn,
        .whole sentOn, .whole keepAlive, .choice reason, .flag skip] => do
        let reason ← StopReason.ofName? reason
        some ⟨⟨id, version⟩, index, guid, reason, ⟨message, sendOn, sentOn, keepAlive, skip⟩⟩
    | _ => none

end Stop

end Fleet
