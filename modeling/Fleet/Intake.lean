import Fleet.Store

/-! The buffer in which heartbeats wait for the next flush into the store. -/
namespace Fleet

structure Intake where
  heartbeats : List Heartbeat
  /-- The latest time of receipt since the last flush; zero if there was none. -/
  receivedAt : Nat
  deriving DecidableEq

namespace Intake

def empty : Intake := ⟨[], 0⟩

def size (i : Intake) : Nat := i.heartbeats.length

def record (i : Intake) (heartbeats : List Heartbeat) (receivedAt : Nat) : Intake :=
  ⟨i.heartbeats ++ heartbeats, max i.receivedAt receivedAt⟩

def drain (i : Intake) : Intake × Intake := (i, empty)

def requeue (i batch : Intake) : Intake :=
  ⟨batch.heartbeats ++ i.heartbeats, max i.receivedAt batch.receivedAt⟩

inductive Refusal where
  | rows (error : StoreError)
  | stamp (error : StoreError)
  deriving DecidableEq, Repr

def save (batch : Intake) (s : Store) : Option Refusal → Except StoreError Nat × Store
  | none => (.ok batch.size, s.saveActual batch.heartbeats batch.receivedAt)
  | some (.rows e) => (.error e, s)
  | some (.stamp e) => (.error e, { s with actual := s.actual.put Heartbeat.key batch.heartbeats })

structure Flushed where
  answer : Except StoreError Nat
  intake : Intake
  store : Store

def Flushed.written (f : Flushed) : Nat := f.answer.toOption.getD 0

/-- Moves the buffered heartbeats into the store and says how many there were. Without a time
of receipt there is nothing to write, and what was buffered is dropped; a batch whose write
is refused goes back. The buffer stays open to others while the store is at work. -/
def flush (i : Intake) (s : Store) (refusal : Option Refusal := none)
    (meanwhile : Intake → Intake := id) : Flushed :=
  let (batch, left) := i.drain
  if batch.receivedAt = 0 then ⟨.ok 0, meanwhile left, s⟩
  else match batch.save s refusal with
    | (.ok n, s) => ⟨.ok n, meanwhile left, s⟩
    | (.error e, s) => ⟨.error e, (meanwhile left).requeue batch, s⟩

theorem flushIdle {i : Intake} (never : i.receivedAt = 0) (s : Store) (refusal : Option Refusal)
    (meanwhile : Intake → Intake) : i.flush s refusal meanwhile = ⟨.ok 0, meanwhile empty, s⟩ :=
  if_pos never

theorem flushTries {i : Intake} (received : i.receivedAt ≠ 0) (s : Store) (refusal : Option Refusal)
    (meanwhile : Intake → Intake) : i.flush s refusal meanwhile = match i.save s refusal with
      | (.ok n, s) => ⟨.ok n, meanwhile empty, s⟩
      | (.error e, s) => ⟨.error e, (meanwhile empty).requeue i, s⟩ := if_neg received

theorem flushSaves {i : Intake} (received : i.receivedAt ≠ 0) (s : Store)
    (meanwhile : Intake → Intake) : i.flush s none meanwhile =
      ⟨.ok i.size, meanwhile empty, s.saveActual i.heartbeats i.receivedAt⟩ :=
  flushTries received s none meanwhile

theorem flushStore (i : Intake) (s : Store) : (i.flush s).store =
    if i.receivedAt = 0 then s else s.saveActual i.heartbeats i.receivedAt := by
  by_cases never : i.receivedAt = 0
  · rw [flushIdle never, if_pos never]
  · rw [flushSaves never, if_neg never]

def tick (i : Intake) (s : Store) (now : Nat) (refusal : Option Refusal := none) : Intake × Store :=
  let f := i.flush s refusal
  match f.store.reap now with
  | .ok r => (f.intake, r.2)
  | .error _ => (f.intake, f.store)

end Intake

end Fleet
