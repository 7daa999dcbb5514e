import Fleet.Command.Help
import Fleet.Receiver
import Fleet.Service.Agenda
import Fleet.Store.Depot
import Fleet.Store.Text
import Std.Time.DateTime.Timestamp

/-! The program on the command line. It reads the settings, takes the store out of its
file, runs the command and writes the store back. Nothing that it is linked with reaches
a receiver, so every message that it tries to send fails. -/
namespace Fleet
namespace Program

def standingSettings : String := "/etc/steward/steward.toml"

def wallClock : IO Nat := do
  let t ← Std.Time.Timestamp.now
  return t.toSecondsSinceUnixEpoch.val.toNat

def bytesAt (path : String) : IO (Option ByteArray) := do
  try
    return some (← IO.FS.readBinFile path)
  catch _ => return none

def setupOf (file : Option String) : IO (Except Outcome Setup) := do
  match file with
  | some path => return Setup.ofFile (← bytesAt path)
  | none => return Setup.ofFileOrDefaults (← bytesAt standingSettings)

def openStore (path : String) : IO (Option Store) := do
  try
    match Depot.folder? path with
    | some folder => IO.FS.createDirAll folder
    | none => pure ()
    match ← bytesAt path with
    | some bytes => return (String.fromUTF8? bytes).bind Store.ofText?
    | none =>
        IO.FS.writeFile path (Store.empty .zero).toText
        return some (.empty .zero)
  catch _ => return none

def receiverTakes (setup : Setup) (m : Message) : Bool :=
  Receiver.takes ⟨setup.settings.transport.endpoint⟩ false m

def runTask (setup : Setup) (s : Store) (task : Task) : IO Outcome := do
  let text ← match task with
    | .importDesired file => bytesAt file
    | _ => pure none
  let provision : Provision := ⟨← wallClock, fun _ => text.bind String.fromUTF8?, receiverTakes setup⟩
  let (outcome, s) := task.run setup.policy provision s
  IO.FS.writeFile setup.storePath s.toText
  return outcome

partial def serve (setup : Setup) (agenda : Agenda) (s : Service) : IO Unit := do
  IO.sleep (agenda.first.due - (← IO.monoMsNow)).toUInt32
  let surroundings : Surroundings := { accepts := receiverTakes setup }
  let (_, s) := s.perform setup.policy (← wallClock) surroundings agenda.first.duty
  IO.FS.writeFile setup.storePath s.store.toText
  serve setup agenda.next s

def run (i : Invocation) : IO Outcome := do
  match ← setupOf i.settingsFile with
  | .error outcome => return outcome
  | .ok setup =>
      match ← openStore setup.storePath with
      | none => return .failure
      | some s =>
          let s := setup.adopt s
          match i.command with
          | .once task => runTask setup s task
          | .serve =>
              serve setup (.start setup.durations (← IO.monoMsNow)) (.ofStore s)
              return .success ""

end Program
end Fleet

def main (args : List String) : IO UInt32 := do
  let outcome ← match Fleet.Line.ofArguments args with
    | .misuse => pure .misuse
    | .help verb => pure (.help verb)
    | .invoke i => Fleet.Program.run i
  IO.print outcome.stdout
  return outcome.code.toUInt32
