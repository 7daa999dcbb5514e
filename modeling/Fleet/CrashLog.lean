import Fleet.Record.Heartbeat
import Fleet.Span

/-! The crash counts of a cycle, looked up by app and index. A count that has outlived
its time is as good as none. -/
namespace Fleet

structure CrashLog where
  counts : Table String CrashCount
  ttl : Nat

namespace CrashLog

def ofList (counts : List CrashCount) (ttl : Span) : CrashLog :=
  ⟨.ofList (counts.map fun c => (c.key, c)), ttl.secs⟩

def count (log : CrashLog) (app : App) (index now : Nat) : CrashCount :=
  match (log.counts.get? (app.indexKey index)).filter (·.isCurrent log.ttl now) with
  | some c => c
  | none => ⟨app, index, 0, now⟩

def expired (log : CrashLog) (now : Nat) : List CrashCount :=
  log.counts.values.filter fun c => !c.isCurrent log.ttl now

end CrashLog

end Fleet
