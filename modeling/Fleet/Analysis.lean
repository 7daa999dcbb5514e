import Fleet.Cycle
import Fleet.Proposal

/-! The analysis cycle: compares the wanted with the reported state and enqueues the
actions that are not pending yet, each under a new message id, together with the crash
counts that its restarts raise. Counts that have outlived their time are removed. -/
namespace Fleet
namespace Analysis

structure Report where
  appsAnalyzed : Nat
  appsStaging : Nat
  startsEnqueued : Nat
  stopsEnqueued : Nat
  startsDeduplicated : Nat
  stopsDeduplicated : Nat
  crashCountsUpdated : Nat
  crashCountsReaped : Nat
  deriving DecidableEq, Repr

def Report.toJson (r : Report) : Json :=
  .object [
    ("apps_analyzed", .nat r.appsAnalyzed),
    ("apps_pending_staging", .nat r.appsStaging),
    ("starts_enqueued", .nat r.startsEnqueued),
    ("stops_enqueued", .nat r.stopsEnqueued),
    ("starts_deduplicated", .nat r.startsDeduplicated),
    ("stops_deduplicated", .nat r.stopsDeduplicated),
    ("crash_counts_updated", .nat r.crashCountsUpdated),
    ("crash_counts_reaped", .nat r.crashCountsReaped)]

def proposals (policy : Policy) (log : CrashLog) (now : Nat) (s : Snapshot) : List Proposal :=
  (s.apps.filter fun v => !v.isStaging).map (Proposal.ofView policy log now)

def newStarts (pending : List String) (p : Proposal) : List Start :=
  p.starts.filter fun s => s.key ∉ pending

def newStops (pending : List String) (p : Proposal) : List Stop :=
  p.stops.filter fun s => s.key ∉ pending

def knownStarts (pending : List String) (p : Proposal) : List Start :=
  p.starts.filter fun s => s.key ∈ pending

def knownStops (pending : List String) (p : Proposal) : List Stop :=
  p.stops.filter fun s => s.key ∈ pending

def newCounts (pending : List String) (p : Proposal) : List CrashCount :=
  (newStarts pending p).filterMap fun s =>
    if s.reason = .crashed then p.crashCounts.find? (·.index = s.index) else none

structure Decision where
  starts : List Start
  stops : List Stop
  crashCounts : List CrashCount
  deriving DecidableEq

def Decision.total (d : Decision) : Nat := d.starts.length + d.stops.length

def decide (pendingStarts pendingStops : List String) (ps : List Proposal) : Decision :=
  ⟨ps.flatMap (newStarts pendingStarts), ps.flatMap (newStops pendingStops),
    ps.flatMap (newCounts pendingStarts)⟩

def numberStarts (first : Nat) : List Start → List Start
  | [] => []
  | s :: rest =>
      { s with delivery := { s.delivery with messageId := first } } :: numberStarts (first + 1) rest

def numberStops (first : Nat) : List Stop → List Stop
  | [] => []
  | s :: rest =>
      { s with delivery := { s.delivery with messageId := first } } :: numberStops (first + 1) rest

/-- Gives out ids from `first` on, starts before stops. The id behind the last one must
still be in range. -/
def Decision.number (d : Decision) (first : Nat) : Except Overflow Decision := do
  let _ ← exactSum first d.total
  .ok { d with
    starts := numberStarts first d.starts
    stops := numberStops (first + d.starts.length) d.stops }

def numbered (d : Decision) : Cycle Decision := do
  if d.total = 0 then return d
  let first ← Cycle.write (.reserveIds d.total) .messageIds
  match d.number first with
  | .ok d => return d
  | .error o => Cycle.halt o

def outlived (log : CrashLog) (now : Nat) (renewed : List CrashCount) : List CrashCount :=
  (log.expired now).filter fun c => c.key ∉ renewed.map CrashCount.key

def remove (counts : List CrashCount) : Cycle Nat := do
  if counts.isEmpty then return 0
  match ← ExceptT.lift (Procedure.ask (.deleteCrashCounts counts)) with
  | .ok n => return n
  | .error _ => return 0

structure Sight where
  snapshot : Snapshot
  log : CrashLog
  starts : List String
  stops : List String

namespace Sight
variable (policy : Policy) (now : Nat)

def proposals (g : Sight) : List Proposal := Analysis.proposals policy g.log now g.snapshot

def draft (g : Sight) : Decision := decide g.starts g.stops (g.proposals policy now)

def report (g : Sight) (d : Decision) (reaped : Nat) : Report := {
  appsAnalyzed := g.snapshot.apps.length
  appsStaging := (g.snapshot.apps.filter View.isStaging).length
  startsEnqueued := d.starts.length
  stopsEnqueued := d.stops.length
  startsDeduplicated := ((g.proposals policy now).flatMap (knownStarts g.starts)).length
  stopsDeduplicated := ((g.proposals policy now).flatMap (knownStops g.stops)).length
  crashCountsUpdated := d.crashCounts.length
  crashCountsReaped := reaped }

end Sight

def look (policy : Policy) (now : Nat) : Cycle Sight := do
  Cycle.requireFresh now policy.freshnessTtl.secs
  let snapshot ← Cycle.snapshot now
  let counts ← Cycle.read .crashCounts .crashCounts
  let starts ← Cycle.read .starts .starts
  let stops ← Cycle.read .stops .stops
  return ⟨snapshot, .ofList counts policy.backoff.counterTtl, starts.map Start.key, stops.map Stop.key⟩

def cycle (policy : Policy) (now : Nat) : Cycle Report := do
  let g ← look policy now
  let d ← numbered (g.draft policy now)
  Cycle.write (.saveAnalysis d.starts d.stops d.crashCounts) .analysis
  let reaped ← remove (outlived g.log now d.crashCounts)
  return g.report policy now d reaped

end Analysis

def analyze (policy : Policy) (now : Nat) (s : Surroundings) (w : World) :
    Except Overflow (Except CycleError Analysis.Report) × World :=
  (Analysis.cycle policy now).run.runIn s w

end Fleet
