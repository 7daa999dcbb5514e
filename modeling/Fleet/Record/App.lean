import Fleet.Record.Shape

/-! Applications and what is wanted of them. An application is a name with a version;
its keys in the store join the parts with commas, so that two applications whose
names or versions hold commas may share a key. -/
namespace Fleet

structure App where
  id : String
  version : String
  deriving DecidableEq, Repr, Inhabited

namespace App

instance : Ord App := ⟨compareLex (compareOn App.id) (compareOn App.version)⟩

instance : Std.TransOrd App :=
  inferInstanceAs (Std.TransCmp (compareLex (compareOn App.id) (compareOn App.version)))

instance : Std.LawfulEqOrd App where
  eq_of_compare {a b} h := by
    have both : (compare a.id b.id).then (compare a.version b.version) = .eq := h
    rw [Ordering.then_eq_eq] at both
    cases a; cases b
    simp only [App.mk.injEq]
    exact ⟨Std.LawfulEqOrd.eq_of_compare both.1, Std.LawfulEqOrd.eq_of_compare both.2⟩

def title (a : App) : String := a.id ++ "@" ++ a.version

def key (a : App) : String := a.id ++ "," ++ a.version

def indexKey (a : App) (index : Nat) : String := a.key ++ "," ++ String.ofList (Nat.toDigits 10 index)

def guidKey (a : App) (guid : String) : String := a.key ++ "," ++ guid

end App

inductive RunState where
  | started
  | stopped
  deriving DecidableEq, Repr

namespace RunState

def name : RunState → String
  | .started => "started"
  | .stopped => "stopped"

def all : List RunState := [.started, .stopped]

def ofName? (s : String) : Option RunState := all.find? (·.name = s)

@[simp] theorem ofName (x : RunState) : ofName? x.name = some x := by cases x <;> rfl

end RunState

inductive PackageState where
  | staged
  | pending
  | failed
  deriving DecidableEq, Repr

namespace PackageState

def name : PackageState → String
  | .staged => "staged"
  | .pending => "pending"
  | .failed => "failed"

def all : List PackageState := [.staged, .pending, .failed]

def ofName? (s : String) : Option PackageState := all.find? (·.name = s)

@[simp] theorem ofName (x : PackageState) : ofName? x.name = some x := by cases x <;> rfl

end PackageState

structure Spec where
  app : App
  instances : Nat
  state : RunState
  package : PackageState
  updatedAt : Nat
  deriving DecidableEq, Repr

namespace Spec

def wanted (s : Spec) : Bool := s.state = .started && s.package = .staged

def staging (s : Spec) : Bool := s.package = .pending

def target (s : Spec) : Nat := if s.wanted then s.instances else 0

instance : Record Spec where
  slots := [
    { name := "app_id", kind := .text },
    { name := "app_version", kind := .text },
    { name := "instance_count", kind := .whole Bounds.count },
    { name := "state", kind := .choice (RunState.all.map RunState.name) },
    { name := "package_state", kind := .choice (PackageState.all.map PackageState.name) },
    { name := "updated_at", kind := .whole Bounds.instant, fallback := some (.whole 0) }]
  toCells s := [.text s.app.id, .text s.app.version, .whole s.instances, .choice s.state.name,
    .choice s.package.name, .whole s.updatedAt]
  ofCells?
    | [.text id, .text version, .whole instances, .choice state, .choice package, .whole updatedAt] => do
        let state ← RunState.ofName? state
        let package ← PackageState.ofName? package
        some ⟨⟨id, version⟩, instances, state, package, updatedAt⟩
    | _ => none

end Spec

end Fleet
