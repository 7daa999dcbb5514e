import Fleet.Record.Action

/-! The messages that ask the runners to start and stop instances. Each tells how many
live instances the app has at every index that has any. -/
namespace Fleet

structure StartMessage where
  app : App
  index : Nat
  messageId : Nat
  running : Table Nat Nat
  deriving DecidableEq

namespace StartMessage

def ofStart (s : Start) (running : Table Nat Nat) : StartMessage :=
  ⟨s.app, s.index, s.delivery.messageId, running⟩

instance : Record StartMessage where
  slots := [
    { name := "app_id", kind := .text },
    { name := "app_version", kind := .text },
    { name := "instance_index", kind := .whole Bounds.count },
    { name := "message_id", kind := .whole Bounds.instant },
    { name := "running_indices", kind := .tally }]
  toCells m := [.text m.app.id, .text m.app.version, .whole m.index, .whole m.messageId,
    .tally m.running]
  ofCells?
    | [.text id, .text version, .whole index, .whole message, .tally running] =>
        some ⟨⟨id, version⟩, index, message, running⟩
    | _ => none

end StartMessage

structure StopMessage where
  app : App
  index : Nat
  guid : String
  isDuplicate : Bool
  messageId : Nat
  running : Table Nat Nat
  deriving DecidableEq

namespace StopMessage

def ofStop (s : Stop) (running : Table Nat Nat) : StopMessage :=
  ⟨s.app, s.index, s.guid, s.reason = .duplicate, s.delivery.messageId, running⟩

instance : Record StopMessage where
  slots := [
    { name := "app_id", kind := .text },
    { name := "app_version", kind := .text },
    { name := "instance_index", kind := .whole Bounds.count },
    { name := "instance_guid", kind := .text },
    { name := "is_duplicate", kind := .flag },
    { name := "message_id", kind := .whole Bounds.instant },
    { name := "running_indices", kind := .tally }]
  toCells m := [.text m.app.id, .text m.app.version, .whole m.index, .text m.guid,
    .flag m.isDuplicate, .whole m.messageId, .tally m.running]
  ofCells?
    | [.text id, .text version, .whole index, .text guid, .flag duplicate, .whole message,
        .tally running] => some ⟨⟨id, version⟩, index, guid, duplicate, message, running⟩
    | _ => none

end StopMessage

end Fleet
