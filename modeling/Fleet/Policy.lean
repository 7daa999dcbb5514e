import Fleet.Powers
import Fleet.Span

/-! How the fleet is kept: how long a crashing instance waits before it is started
again, and the times and limits of the cycles. -/
namespace Fleet

structure Backoff where
  minimumCrashes : Nat := 3
  startingDelay : Span := .ofSecs 30
  maximumDelay : Span := .ofSecs 960
  counterTtl : Span := .ofSecs 1920
  deriving DecidableEq, Repr

namespace Backoff

def factor (doublings : Nat) : Nat := if doublings < 32 then twoTo doublings else Bounds.count

def delay (b : Backoff) (crashes : Nat) : Span :=
  if crashes < b.minimumCrashes then .zero
  else
    ((b.startingDelay.times? (factor (crashes - b.minimumCrashes))).getD b.maximumDelay).shorter
      b.maximumDelay

end Backoff

structure Policy where
  grace : Span := .ofSecs 30
  sendLimit : Nat := 30
  freshnessTtl : Span := .ofSecs 60
  backoff : Backoff := {}
  deriving DecidableEq, Repr

end Fleet
