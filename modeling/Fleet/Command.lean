import Fleet.Analysis
import Fleet.Dispatch
import Fleet.Metrics
import Fleet.Settings.File

/-! Commands: what each does with the store, what it prints, and with which code it ends. -/
namespace Fleet

inductive Task where
  | analyze
  | send
  | importDesired (file : String)
  | metrics
  | pending
  deriving DecidableEq, Repr

inductive Command where
  | once (task : Task)
  | serve
  deriving DecidableEq, Repr

structure Outcome where
  code : Nat
  stdout : String
  deriving DecidableEq, Repr

namespace Outcome

def success (stdout : String) : Outcome := ⟨0, stdout⟩

def failure : Outcome := ⟨1, ""⟩

def misuse : Outcome := ⟨2, ""⟩

def overflow : Outcome := ⟨101, ""⟩

def page (j : Json) : Outcome := success (j.toIndentedText ++ "\n")

def ofCycle {α : Type} (report : α → Json) : Except Overflow (Except CycleError α) → Outcome
  | .ok (.ok r) => page (report r)
  | .ok (.error _) => failure
  | .error _ => overflow

end Outcome

def Json.byName : Json → Json
  | .object members => .object (arrange (fun a b => decide (a.1 ≤ b.1)) members)
  | j => j

structure Provision where
  now : Nat
  file : String → Option String
  accepts : Message → Bool

namespace Task

def pendingPage (s : Store) : Except StoreError Json := do
  let starts ← s.starts.scan
  let stops ← s.stops.scan
  .ok (.object [
    ("starts", .array (starts.map fun a => (Record.toJson a).byName)),
    ("stops", .array (stops.map fun a => (Record.toJson a).byName))])

def run (policy : Policy) (p : Provision) (s : Store) : Task → Outcome × Store
  | .analyze =>
      let (r, w) := Fleet.analyze policy p.now {} ⟨s, []⟩
      (.ofCycle Analysis.Report.toJson r, w.store)
  | .send =>
      let (r, w) := dispatch policy p.now { accepts := p.accepts } ⟨s, []⟩
      (.ofCycle Dispatch.Report.toJson r, w.store)
  | .importDesired file =>
      match (p.file file).map Record.decodeAll with
      | some (.ok specs) => (.success "", s.syncDesired specs p.now)
      | _ => (.failure, s)
  | .metrics => (.success (Metrics.render s.metrics.entries), s)
  | .pending =>
      match pendingPage s with
      | .ok j => (.page j, s)
      | .error _ => (.failure, s)

end Task

def SettingsError.outcome : SettingsError → Outcome
  | .overflow _ => .overflow
  | _ => .failure

structure Setup where
  settings : Settings
  durations : Durations

namespace Setup

def policy (s : Setup) : Policy := s.settings.policyOf s.durations

def storePath (s : Setup) : String := s.settings.store.path

def ofSettings : Except SettingsError Settings → Except Outcome Setup
  | .error e => .error e.outcome
  | .ok settings =>
      match settings.resolve with
      | .error e => .error e.outcome
      | .ok durations => .ok ⟨settings, durations⟩

def ofFile (file : Option ByteArray) : Except Outcome Setup := ofSettings (Settings.ofBytes file)

def ofFileOrDefaults (file : Option ByteArray) : Except Outcome Setup :=
  ofSettings (Settings.ofBytesOrDefaults file)

def adopt (setup : Setup) (s : Store) : Store := { s with heartbeatTtl := setup.durations.heartbeatTtl.secs }

end Setup
end Fleet
