import Fleet.Record.Shape

/-! When the wanted state and the reported state were last heard of; zero means never. -/
namespace Fleet

structure Freshness where
  desiredAt : Nat
  actualAt : Nat
  deriving DecidableEq, Repr

namespace Freshness

def isFresh (stamp now ttl : Nat) : Bool := stamp ≠ 0 && now - stamp ≤ ttl

def desiredIsFresh (f : Freshness) (now ttl : Nat) : Bool := isFresh f.desiredAt now ttl

def actualIsFresh (f : Freshness) (now ttl : Nat) : Bool := isFresh f.actualAt now ttl

instance : Record Freshness where
  slots := [
    { name := "desired_at", kind := .whole Bounds.instant },
    { name := "actual_at", kind := .whole Bounds.instant }]
  toCells f := [.whole f.desiredAt, .whole f.actualAt]
  ofCells?
    | [.whole desired, .whole actual] => some ⟨desired, actual⟩
    | _ => none

end Freshness

end Fleet
