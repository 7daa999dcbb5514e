import Fleet.Policy
import Fleet.Record.Shape
import Fleet.Span.Notation
import Fleet.Text.Quoted

/-! The settings: what an operator may write down, the values that stand in for what is
left out, and the checks that turn texts into spans. -/
namespace Fleet

structure StoreSettings where
  path : String
  heartbeatTtl : String
  freshnessTtl : String
  deriving DecidableEq, Repr

structure ConvergenceSettings where
  gracePeriod : String
  analysisInterval : String
  sendInterval : String
  sendLimit : Nat
  deriving DecidableEq, Repr

structure BackoffSettings where
  minimumCrashes : Nat
  startingDelay : String
  maximumDelay : String
  counterTtl : String
  deriving DecidableEq, Repr

structure TransportSettings where
  endpoint : String
  timeout : String
  deriving DecidableEq, Repr

structure ApiSettings where
  port : Nat
  deriving DecidableEq, Repr

structure Settings where
  store : StoreSettings
  convergence : ConvergenceSettings
  backoff : BackoffSettings
  transport : TransportSettings
  api : ApiSettings
  deriving DecidableEq, Repr

instance : Record StoreSettings where
  slots := [
    { name := "path", kind := .text, fallback := some (.text "/var/lib/steward/steward.redb") },
    { name := "heartbeat_ttl", kind := .text, fallback := some (.text "30s") },
    { name := "freshness_ttl", kind := .text, fallback := some (.text "60s") }]
  toCells s := [.text s.path, .text s.heartbeatTtl, .text s.freshnessTtl]
  ofCells?
    | [.text path, .text heartbeatTtl, .text freshnessTtl] => some ⟨path, heartbeatTtl, freshnessTtl⟩
    | _ => none

instance : Record ConvergenceSettings where
  slots := [
    { name := "grace_period", kind := .text, fallback := some (.text "30s") },
    { name := "analysis_interval", kind := .text, fallback := some (.text "10s") },
    { name := "send_interval", kind := .text, fallback := some (.text "10s") },
    { name := "sender_message_limit", kind := .whole Bounds.instant, fallback := some (.whole 30) }]
  toCells s := [.text s.gracePeriod, .text s.analysisInterval, .text s.sendInterval, .whole s.sendLimit]
  ofCells?
    | [.text grace, .text analysis, .text send, .whole limit] => some ⟨grace, analysis, send, limit⟩
    | _ => none

instance : Record BackoffSettings where
  slots := [
    { name := "minimum_crash_count", kind := .whole Bounds.count, fallback := some (.whole 3) },
    { name := "starting_delay", kind := .text, fallback := some (.text "30s") },
    { name := "maximum_delay", kind := .text, fallback := some (.text "16m") },
    { name := "counter_ttl", kind := .text, fallback := some (.text "32m") }]
  toCells s := [.whole s.minimumCrashes, .text s.startingDelay, .text s.maximumDelay, .text s.counterTtl]
  ofCells?
    | [.whole minimum, .text starting, .text maximum, .text ttl] =>
        some ⟨minimum, starting, maximum, ttl⟩
    | _ => none

instance : Record TransportSettings where
  slots := [
    { name := "endpoint", kind := .text, fallback := some (.text "127.0.0.1:9022") },
    { name := "timeout", kind := .text, fallback := some (.text "5s") }]
  toCells s := [.text s.endpoint, .text s.timeout]
  ofCells?
    | [.text endpoint, .text timeout] => some ⟨endpoint, timeout⟩
    | _ => none

instance : Record ApiSettings where
  slots := [{ name := "port", kind := .whole Bounds.port, fallback := some (.whole 9030) }]
  toCells s := [.whole s.port]
  ofCells?
    | [.whole port] => some ⟨port⟩
    | _ => none

inductive SettingsError where
  | unread
  | unparsed
  | unrendered
  | duration (key value : String)
  | invalid (key reason : String)
  | overflow (cause : Overflow)
  deriving DecidableEq, Repr

def SettingsError.message? : SettingsError → Option String
  | .unread => none
  | .unparsed => none
  | .unrendered => none
  | .duration key value => some ("invalid duration for `" ++ key ++ "`: " ++ Text.quoted value)
  | .invalid key reason => some ("invalid value for `" ++ key ++ "`: " ++ reason)
  | .overflow cause => some cause.message

structure Durations where
  heartbeatTtl : Span
  freshnessTtl : Span
  gracePeriod : Span
  analysisInterval : Span
  sendInterval : Span
  startingDelay : Span
  maximumDelay : Span
  counterTtl : Span
  timeout : Span
  deriving DecidableEq, Repr

namespace Settings

def span (key value : String) : Except SettingsError Span :=
  match Span.ofText value with
  | .ok (some s) => .ok s
  | .ok none => .error (.duration key value)
  | .error o => .error (.overflow o)

def spans (s : Settings) : Except SettingsError Durations := do
  let heartbeatTtl ← span "store.heartbeat_ttl" s.store.heartbeatTtl
  let freshnessTtl ← span "store.freshness_ttl" s.store.freshnessTtl
  let gracePeriod ← span "convergence.grace_period" s.convergence.gracePeriod
  let analysisInterval ← span "convergence.analysis_interval" s.convergence.analysisInterval
  let sendInterval ← span "convergence.send_interval" s.convergence.sendInterval
  let startingDelay ← span "crash_backoff.starting_delay" s.backoff.startingDelay
  let maximumDelay ← span "crash_backoff.maximum_delay" s.backoff.maximumDelay
  let counterTtl ← span "crash_backoff.counter_ttl" s.backoff.counterTtl
  let timeout ← span "transport.timeout" s.transport.timeout
  .ok { heartbeatTtl, freshnessTtl, gracePeriod, analysisInterval, sendInterval, startingDelay,
        maximumDelay, counterTtl, timeout }

def resolve (s : Settings) : Except SettingsError Durations := do
  let d ← s.spans
  if d.maximumDelay.nanos < d.startingDelay.nanos then
    .error (.invalid "crash_backoff.maximum_delay" "must not be shorter than starting_delay")
  else if d.analysisInterval.isZero || d.sendInterval.isZero then
    .error (.invalid "convergence" "cycle intervals must be non-zero")
  else if (Text.trim s.transport.endpoint.toList).isEmpty then
    .error (.invalid "transport.endpoint" "must not be empty")
  else .ok d

def policyOf (s : Settings) (d : Durations) : Policy where
  grace := d.gracePeriod
  sendLimit := s.convergence.sendLimit
  freshnessTtl := d.freshnessTtl
  backoff := {
    minimumCrashes := s.backoff.minimumCrashes
    startingDelay := d.startingDelay
    maximumDelay := d.maximumDelay
    counterTtl := d.counterTtl }

def policy (s : Settings) : Except SettingsError Policy := s.resolve.map s.policyOf

end Settings
end Fleet
