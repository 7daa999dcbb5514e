import Mathlib.Algebra.GroupWithZero.Nat
import Fleet.Intake
import Fleet.Proofs.Rows

/-! What comes of the reports that are recorded while the buffer is flushed now and then, and
some of the flushes are refused. What the store would hold if the buffer were flushed at once
is the same before a flush and after it, refused or not, and a report that is recorded is saved
to it. So wherever the flushes fall, the store ends as if each report had been saved by itself. -/
namespace Fleet
namespace Intake

structure Report where
  heartbeats : List Heartbeat
  receivedAt : Nat
  deriving DecidableEq, Repr

inductive Step where
  | record (report : Report)
  | flush
  | refused (refusal : Refusal)
  deriving DecidableEq, Repr

def Step.report? : Step → Option Report
  | .record report => some report
  | .flush | .refused _ => none

def reports (steps : List Step) : List Report := steps.filterMap Step.report?

def recorded (reports : List Report) : List Heartbeat := reports.flatMap Report.heartbeats

structure Desk where
  intake : Intake
  store : Store
  written : List Nat

namespace Desk

def clear (s : Store) : Desk := ⟨.empty, s, []⟩

def step (d : Desk) : Step → Desk
  | .record report => { d with intake := d.intake.record report.heartbeats report.receivedAt }
  | .flush =>
      let f := d.intake.flush d.store
      ⟨f.intake, f.store, d.written ++ [f.written]⟩
  | .refused refusal =>
      let f := d.intake.flush d.store (some refusal)
      ⟨f.intake, f.store, d.written ++ [f.written]⟩

def after (s : Store) (steps : List Step) : Desk := steps.foldl step (clear s)

end Desk

variable {i : Intake} {s : Store} {steps : List Step} {d : Desk}

def Timed (i : Intake) : Prop := i.receivedAt = 0 → i.heartbeats = []

theorem flushedIntake (i : Intake) (s : Store) : (i.flush s).intake = empty := by
  by_cases never : i.receivedAt = 0
  · rw [flushIdle never]
    rfl
  · rw [flushSaves never]
    rfl

theorem flushedSize (timed : i.Timed) (s : Store) : (i.flush s).written = i.size := by
  by_cases never : i.receivedAt = 0
  · rw [flushIdle never, size, timed never, List.length_nil]
    rfl
  · rw [flushSaves never]
    rfl

theorem requeueEmpty (i : Intake) : empty.requeue i = i := by
  simp [requeue, empty]

theorem flushRefused (received : i.receivedAt ≠ 0) (s : Store) (refusal : Refusal) :
    (i.flush s (some refusal)).intake = i ∧ (i.flush s (some refusal)).written = 0 ∧
      ((i.flush s (some refusal)).store = s ∨ (i.flush s (some refusal)).store =
        { s with actual := s.actual.put Heartbeat.key i.heartbeats }) := by
  rw [flushTries received]
  cases refusal with
  | rows e => exact ⟨requeueEmpty i, rfl, .inl rfl⟩
  | stamp e => exact ⟨requeueEmpty i, rfl, .inr rfl⟩

theorem flushAgain (i : Intake) (s : Store) (refusal : Refusal) :
    let f := i.flush s (some refusal)
    (f.intake.flush f.store).store = (i.flush s).store := by
  by_cases never : i.receivedAt = 0
  · rw [flushIdle never, flushIdle never]
    rfl
  · obtain ⟨intake, _, store | store⟩ := flushRefused never s refusal
    · simp only [intake, store]
    · simp only [intake, store]
      rw [flushSaves never, flushSaves never, Store.saveActual, Store.saveActual, Rows.putAgain]

theorem flushMeanwhile (i : Intake) (s : Store) (refusal : Option Refusal) (r : Report) :
    i.flush s refusal (·.record r.heartbeats r.receivedAt) =
      let f := i.flush s refusal
      { f with intake := f.intake.record r.heartbeats r.receivedAt } := by
  by_cases never : i.receivedAt = 0
  · rw [flushIdle never, flushIdle never]
    rfl
  · rw [flushTries never, flushTries never]
    rcases i.save s refusal with ⟨e | n, s'⟩
    · simp [requeue, record, empty, Nat.max_comm]
    · rfl

theorem savedTogether (s : Store) (hs hs' : List Heartbeat) (t t' : Nat) :
    s.saveActual (hs ++ hs') (max t t') = (s.saveActual hs t).saveActual hs' t' := by
  simp only [Store.saveActual, Store.markActualFresh, Rows.putAppend, Nat.max_assoc]

theorem flushRecorded (timed : i.Timed) (s : Store) {r : Report} (received : 1 ≤ r.receivedAt) :
    ((i.record r.heartbeats r.receivedAt).flush s).store =
      (i.flush s).store.saveActual r.heartbeats r.receivedAt := by
  have waits : (i.record r.heartbeats r.receivedAt).receivedAt ≠ 0 := by
    simp only [record]
    omega
  rw [flushSaves waits]
  by_cases never : i.receivedAt = 0
  · rw [flushIdle never, record, timed never, never, List.nil_append, Nat.zero_max]
  · rw [flushSaves never]
    exact savedTogether s _ _ _ _

def saved (s : Store) (reports : List Report) : Store :=
  reports.foldl (fun s r => s.saveActual r.heartbeats r.receivedAt) s

/-- After these reports: nothing that waits is untimed, the store would be as if each had been
saved if it were flushed now, and what is not yet written waits. -/
structure Keeps (s : Store) (reports : List Report) (d : Desk) : Prop where
  timed : d.intake.Timed
  saves : (d.intake.flush d.store).store = saved s reports
  counts : d.written.sum + d.intake.size = (recorded reports).length

theorem keepsClear (s : Store) : Keeps s [] (.clear s) := ⟨fun _ => rfl, rfl, rfl⟩

theorem keepsRecord {rs : List Report} (keeps : Keeps s rs d) {r : Report}
    (received : 1 ≤ r.receivedAt) : Keeps s (rs ++ [r]) (d.step (.record r)) where
  timed never := by
    simp only [Desk.step, record] at never
    omega
  saves := by
    simp only [Desk.step]
    rw [flushRecorded keeps.timed d.store received, keeps.saves, saved, saved, List.foldl_append]
    rfl
  counts := by
    have counts := keeps.counts
    simp only [recorded, size] at counts
    simp only [Desk.step, record, size, recorded, List.flatMap_append, List.length_append,
      List.flatMap_singleton]
    omega

theorem keepsFlush {rs : List Report} (keeps : Keeps s rs d) : Keeps s rs (d.step .flush) where
  timed _ := by
    simp only [Desk.step, flushedIntake]
    rfl
  saves := by
    simp only [Desk.step, flushedIntake]
    exact keeps.saves
  counts := by
    have drained : empty.size = 0 := rfl
    simp only [Desk.step, flushedIntake, flushedSize keeps.timed, List.sum_append,
      List.sum_singleton, drained]
    exact keeps.counts

theorem keepsRefused {rs : List Report} (keeps : Keeps s rs d) (refusal : Refusal) :
    Keeps s rs (d.step (.refused refusal)) := by
  have again := flushAgain d.intake d.store refusal
  by_cases never : d.intake.receivedAt = 0
  · have idle : d.step (.refused refusal) = d.step .flush := by
      simp only [Desk.step, flushIdle never]
    exact idle ▸ keepsFlush keeps
  · obtain ⟨intake, written, _⟩ := flushRefused never d.store refusal
    refine ⟨?_, again.trans keeps.saves, ?_⟩
    · simp only [Desk.step, intake]
      exact keeps.timed
    · simp only [Desk.step, intake, written, List.sum_append, List.sum_singleton]
      exact keeps.counts

theorem keepsRun {rs : List Report} (keeps : Keeps s rs d)
    (received : ∀ r ∈ reports steps, 1 ≤ r.receivedAt) :
    Keeps s (rs ++ reports steps) (steps.foldl Desk.step d) := by
  induction steps generalizing rs d with
  | nil => exact (List.append_nil rs).symm ▸ keeps
  | cons step steps ih =>
    cases step with
    | record r =>
      have first := keepsRecord keeps (received r List.mem_cons_self)
      have rest := ih first fun r' member => received r' (List.mem_cons_of_mem _ member)
      rwa [List.append_assoc] at rest
    | flush => exact ih (keepsFlush keeps) received
    | refused refusal => exact ih (keepsRefused keeps refusal) received

theorem savedAll (s : Store) (rs : List Report) :
    saved s rs = { s with
      actual := s.actual.put Heartbeat.key (recorded rs)
      freshness := { s.freshness with
        actualAt := (rs.map Report.receivedAt).foldl max s.freshness.actualAt } } := by
  induction rs generalizing s with
  | nil => rfl
  | cons r rs ih =>
    have all : recorded (r :: rs) = r.heartbeats ++ recorded rs := List.flatMap_cons
    rw [saved, List.foldl_cons, ← saved, ih, all, Rows.putAppend]
    rfl

structure Delivered (s : Store) (reports : List Report) (d : Desk) : Prop where
  emptied : d.intake = empty
  counted : d.written.sum = (recorded reports).length
  store : d.store = { s with
    actual := s.actual.put Heartbeat.key (recorded reports)
    freshness := { s.freshness with actualAt := d.store.freshness.actualAt } }
  latest : ∀ k, d.store.actual.get? k =
    (((recorded reports).filter (·.key = k)).getLast?.map .held).or (s.actual.get? k)
  stamped : (s.freshness.actualAt :: reports.map Report.receivedAt).max? =
    some d.store.freshness.actualAt

theorem deliveredAfter (s : Store) {steps : List Step}
    (received : ∀ r ∈ reports steps, 1 ≤ r.receivedAt) :
    (Desk.after s (steps ++ [.flush])).store = saved s (reports steps) ∧
      Delivered s (reports steps) (Desk.after s (steps ++ [.flush])) := by
  have keeps : Keeps s (reports steps) (Desk.after s steps) := keepsRun (keepsClear s) received
  have last : Desk.after s (steps ++ [.flush]) = (Desk.after s steps).step .flush := by
    rw [Desk.after, List.foldl_append]
    rfl
  have emptied : (Desk.after s (steps ++ [.flush])).intake = empty := by
    rw [last]
    exact flushedIntake _ _
  have store : (Desk.after s (steps ++ [.flush])).store = saved s (reports steps) := by
    rw [last]
    exact keeps.saves
  have counts := (keepsFlush keeps).counts
  rw [← last, emptied] at counts
  refine ⟨store, emptied, counts, ?_, fun k => ?_, ?_⟩
  · rw [store, savedAll]
  · rw [store, savedAll]
    exact Rows.getPut Heartbeat.key s.actual _ k
  · rw [store, savedAll, List.max?_cons']

theorem reportsDelivered (s : Store) (steps : List Step)
    (received : ∀ r ∈ reports steps, 1 ≤ r.receivedAt) :
    Delivered s (reports steps) (Desk.after s (steps ++ [.flush])) ∧
      ∀ other, reports other = reports steps →
        (Desk.after s (other ++ [.flush])).store = (Desk.after s (steps ++ [.flush])).store := by
  obtain ⟨store, delivered⟩ := deliveredAfter s received
  refine ⟨delivered, fun other same => ?_⟩
  rw [(deliveredAfter s (same ▸ received)).1, store, same]

def overlapping : List Step :=
  let web : App := ⟨"web", "v1"⟩
  [.record ⟨[⟨web, 0, "a", .running, 1000⟩, ⟨web, 1, "b", .running, 1000⟩], 1000⟩,
    .refused (.rows (.unavailable "save_actual_state")), .flush,
    .record ⟨[⟨web, 0, "a", .crashed, 1020⟩], 1020⟩, .record ⟨[], 990⟩,
    .refused (.stamp (.unavailable "save_actual_state")), .flush, .flush,
    .record ⟨[⟨web, 0, "a", .starting, 1010⟩], 1010⟩]

theorem overlappingDelivered :
    let s := (Store.empty (.ofSecs 30)).saveActual [⟨⟨"web", "v1"⟩, 1, "c", .running, 970⟩] 970
    let d := Desk.after s (overlapping ++ [.flush])
    (∀ r ∈ reports overlapping, 1 ≤ r.receivedAt) ∧
      d.written = [0, 2, 0, 1, 0, 1] ∧
      Delivered s (reports overlapping) d ∧
      d.store.actual.entries =
        [("web,v1,a", .held ⟨⟨"web", "v1"⟩, 0, "a", .starting, 1010⟩),
          ("web,v1,b", .held ⟨⟨"web", "v1"⟩, 1, "b", .running, 1000⟩),
          ("web,v1,c", .held ⟨⟨"web", "v1"⟩, 1, "c", .running, 970⟩)] ∧
      d.store.freshness.actualAt = 1020 := by
  intro s d
  have received : ∀ r ∈ reports overlapping, 1 ≤ r.receivedAt := by decide
  refine ⟨received, ?_, (reportsDelivered s overlapping received).1, ?_, ?_⟩ <;> decide +kernel

end Intake
end Fleet
