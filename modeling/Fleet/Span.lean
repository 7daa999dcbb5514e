import Fleet.Bounds

/-! Lengths of time in nanoseconds. The longest span has as many whole seconds as the
largest instant. -/
namespace Fleet

structure Span where
  nanos : Nat
  deriving DecidableEq, Repr

namespace Span

def perSecond : Nat := 1000000000

def longest : Nat := Bounds.instant * perSecond + (perSecond - 1)

def zero : Span := ⟨0⟩

def ofSecs (n : Nat) : Span := ⟨n * perSecond⟩

def ofMillis (n : Nat) : Span := ⟨n * 1000000⟩

def secs (s : Span) : Nat := s.nanos / perSecond

def subsec (s : Span) : Nat := s.nanos % perSecond

def isZero (s : Span) : Bool := s.nanos = 0

def times? (s : Span) (n : Nat) : Option Span :=
  if s.nanos * n ≤ longest then some ⟨s.nanos * n⟩ else none

def shorter (a b : Span) : Span := if a.nanos ≤ b.nanos then a else b

end Span

end Fleet
