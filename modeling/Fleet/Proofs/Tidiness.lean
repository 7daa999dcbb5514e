import Mathlib.Data.List.Dedup
import Fleet.Proofs.Priorities
import Fleet.Proofs.Reaping

/-! What holds of a store, whatever operations led to it. Each row reads as a record of the key
that it stands under, whatever commas the strings in it hold. So a scan has no two records of one
key, and a list of scanned records names just the rows that go when the list is deleted, each of
them once, however often its record is listed. -/
namespace Fleet

namespace Rows
variable {α : Type} [Record α] [DecidableEq α] {key : α → String} {t : Rows α} {rs l : List α}

structure Deleted (l : List α) (t : Rows α) (n : Nat) (t' : Rows α) : Prop where
  rows : ∀ k row, t'.get? k = some row ↔ t.get? k = some row ∧ ∀ r ∈ l, row.read ≠ .ok r
  count : n = l.dedup.length
  size : n + t'.size = t.size

omit [DecidableEq α] in
theorem scanSize (scan : t.scan = .ok rs) : rs.length = t.size := (scanPairs scan).length_eq.symm

section
variable (own : Own key t) (scan : t.scan = .ok rs) (drawn : l ⊆ rs)
include own scan drawn

omit [DecidableEq α] in
theorem removedRows {k : String} {row : Row α} : (remove t (l.map key)).2.get? k = some row ↔
    t.get? k = some row ∧ ∀ r ∈ l, row.read ≠ .ok r := by
  rw [getRemove]
  constructor
  · intro found
    split at found
    · cases found
    rename_i stays
    refine ⟨found, fun r listed reads => stays ?_⟩
    exact List.mem_map.mpr ⟨r, listed, own k row r found reads⟩
  · rintro ⟨found, unlisted⟩
    rw [if_neg, found]
    intro named
    obtain ⟨r, listed, rfl⟩ := List.mem_map.mp named
    obtain ⟨row', found', reads⟩ := ownFound own scan (drawn listed)
    cases found.symm.trans found'
    exact unlisted r listed reads

theorem removedCount : (remove t (l.map key)).1 = l.dedup.length := by
  have distinct := ownScanDistinct own scan
  have stay : (rs.filter fun r => key r ∉ l.map key) = rs.filter fun r => !decide (r ∈ l) := by
    refine List.filter_congr fun r member => ?_
    simp only [memOfKey distinct drawn member, decide_not]
  have left := scanSize (scanRemoved own scan (l.map key))
  rw [stay] at left
  -- A scan has each of its records once, so the listed ones among them are the list without repeats.
  have go : (rs.filter fun r => decide (r ∈ l)).Perm l.dedup := by
    refine (List.perm_ext_iff_of_nodup (distinct.of_map.filter _) l.nodup_dedup).mpr fun r => ?_
    rw [List.mem_filter, List.mem_dedup, decide_eq_true_eq]
    exact ⟨And.right, fun listed => ⟨drawn listed, listed⟩⟩
  have parts := rs.length_eq_length_filter_add fun r => decide (r ∈ l)
  have all := removeSize t (l.map key)
  rw [go.length_eq, scanSize scan] at parts
  omega

theorem removedScanned : Deleted l t (remove t (l.map key)).1 (remove t (l.map key)).2 where
  rows _ _ := removedRows own scan drawn
  count := removedCount own scan drawn
  size := removeSize t (l.map key)

end

structure Tidy (key : α → String) (t : Rows α) : Prop where
  own : ∀ k row, t.get? k = some row → ∃ r, row.read = .ok r ∧ key r = k
  scan : ∃ rs, t.scan = .ok rs ∧ (rs.map key).Nodup ∧
    ∀ l, l ⊆ rs → Deleted l t (t.remove (l.map key)).1 (t.remove (l.map key)).2

theorem tidyOf (own : Own key t) (readable : Readable t) : Tidy key t where
  own k row found := by
    obtain ⟨r, reads⟩ := readable k row found
    exact ⟨r, reads, own k row r found reads⟩
  scan := by
    obtain ⟨rs, scan⟩ := readableScan readable
    exact ⟨rs, scan, ownScanDistinct own scan, fun l drawn => removedScanned own scan drawn⟩

end Rows

def Call.startsWritten : Call → List Start
  | .saveStarts rs => rs
  | .saveAnalysis rs _ _ => rs
  | _ => []

inductive Change where
  | sync (specs : List Spec) (now : Nat)
  | report (heartbeats : List Heartbeat) (receivedAt : Nat)
  | refreshDesired (time : Nat)
  | refreshActual (time : Nat)
  | reap (now : Nat)
  | call (c : Call)

namespace Change

def apply (s : Store) : Change → Store
  | .sync specs now => s.syncDesired specs now
  | .report heartbeats receivedAt => s.saveActual heartbeats receivedAt
  | .refreshDesired time => s.markDesiredFresh time
  | .refreshActual time => s.markActualFresh time
  | .reap now =>
      match s.reap now with
      | .ok r => r.2
      | .error _ => s
  | .call c => ((Procedure.ask c).run {} ⟨s, []⟩).2.store

def startsWritten : Change → List Start
  | .call c => c.startsWritten
  | _ => []

end Change

theorem Start.settles {start : Start} (small : start.priority.magnitude ≤ Binary64.one) :
    ∃ a, Record.settle start = some a := by
  obtain ⟨p, reread⟩ := Binary64.rereadSome small
  exact ⟨{ start with priority := p }, by rw [Start.settle, reread]; rfl⟩

namespace Store
variable {ttl : Span} {s : Store}

def changed (s : Store) (changes : List Change) : Store := changes.foldl Change.apply s

theorem changeReachable (reachable : s.Reachable ttl) (change : Change) :
    (change.apply s).Reachable ttl := by
  cases change with
  | sync specs now => exact .sync specs now reachable
  | report heartbeats receivedAt => exact .report heartbeats receivedAt reachable
  | refreshDesired time => exact .refreshDesired time reachable
  | refreshActual time => exact .refreshActual time reachable
  | reap now =>
    simp only [Change.apply]
    cases reaped : s.reap now with
    | error e => exact reachable
    | ok r => exact .reap reachable reaped
  | call c => exact runReachable (Procedure.ask c) {} (w := ⟨s, []⟩) reachable

structure Legible (s : Store) : Prop where
  desired : Rows.Readable s.desired
  actual : Rows.Readable s.actual
  crashCounts : Rows.Readable s.crashCounts
  starts : Rows.Readable s.starts
  stops : Rows.Readable s.stops

theorem emptyLegible (ttl : Span) : (empty ttl).Legible :=
  ⟨Rows.readableEmpty, Rows.readableEmpty, Rows.readableEmpty, Rows.readableEmpty, Rows.readableEmpty⟩

theorem serveLegible {w w' : World} {accepts : Message → Bool} {c : Call} {r : Except StoreError c.Reply}
    (legible : w.store.Legible)
    (small : ∀ start ∈ c.startsWritten, start.priority.magnitude ≤ Binary64.one)
    (served : w.serve accepts c = .ok (r, w')) : w'.store.Legible := by
  cases c with
  | reserveIds n =>
    obtain ⟨lastId, rfl⟩ := World.reserved served
    exact { legible with }
  | increment m =>
    obtain ⟨metrics, rfl⟩ := World.incremented served
    exact { legible with }
  | saveCrashCounts counts =>
    cases served
    exact { legible with
      crashCounts := Rows.readablePut legible.crashCounts fun c _ => ⟨c, CrashCount.settle c⟩ }
  | deleteCrashCounts counts =>
    cases served
    exact { legible with crashCounts := Rows.readableRemove legible.crashCounts _ }
  | saveStarts starts =>
    cases served
    exact { legible with
      starts := Rows.readablePut legible.starts fun start member => Start.settles (small start member) }
  | deleteStarts starts =>
    cases served
    exact { legible with starts := Rows.readableRemove legible.starts _ }
  | saveStops stops =>
    cases served
    exact { legible with
      stops := Rows.readablePut legible.stops fun stop _ => ⟨stop, Stop.settle stop⟩ }
  | deleteStops stops =>
    cases served
    exact { legible with stops := Rows.readableRemove legible.stops _ }
  | saveAnalysis starts stops counts =>
    cases served
    exact { legible with
      starts := Rows.readablePut legible.starts fun start member => Start.settles (small start member)
      stops := Rows.readablePut legible.stops fun stop _ => ⟨stop, Stop.settle stop⟩
      crashCounts := Rows.readablePut legible.crashCounts fun c _ => ⟨c, CrashCount.settle c⟩ }
  | _ => cases served; exact legible

theorem changeLegible (legible : s.Legible) {change : Change}
    (small : ∀ start ∈ change.startsWritten, start.priority.magnitude ≤ Binary64.one) :
    (change.apply s).Legible := by
  cases change with
  | sync specs now =>
    exact { legible with
      desired := Rows.readablePut Rows.readableEmpty fun spec _ => ⟨spec, Spec.settle spec⟩ }
  | report heartbeats receivedAt =>
    exact { legible with
      actual := Rows.readablePut legible.actual fun h _ => ⟨h, Heartbeat.settle h⟩ }
  | refreshDesired time | refreshActual time => exact { legible with }
  | reap now =>
    simp only [Change.apply]
    cases reaped : s.reap now with
    | error e => exact legible
    | ok r =>
      obtain ⟨n, s'⟩ := r
      obtain ⟨gone, rfl⟩ := reapedRest reaped
      exact { legible with actual := Rows.readableRemove legible.actual gone }
  | call c =>
    simp only [Change.apply, Procedure.ask, Procedure.run]
    split
    · exact legible
    · rename_i r w attempted
      exact serveLegible (w := ⟨s, []⟩) legible small attempted

def Deletes {α : Type} [Record α] [DecidableEq α] (rows : Rows α) (delete : List α → Nat × Store)
    (keeping : Rows α → Store) : Prop :=
  ∀ rs, rows.scan = .ok rs → ∀ l, l ⊆ rs → ∃ n t, delete l = (n, keeping t) ∧ rows.Deleted l n t

structure Tidy (s : Store) : Prop where
  desired : Rows.Tidy (fun spec => spec.app.key) s.desired
  actual : Rows.Tidy Heartbeat.key s.actual
  crashCounts : Rows.Tidy CrashCount.key s.crashCounts
  starts : Rows.Tidy Start.key s.starts
  stops : Rows.Tidy Stop.key s.stops
  deletesCrashCounts : Deletes s.crashCounts s.deleteCrashCounts fun t => { s with crashCounts := t }
  deletesStarts : Deletes s.starts s.deleteStarts fun t => { s with starts := t }
  deletesStops : Deletes s.stops s.deleteStops fun t => { s with stops := t }
  reaps : ∀ now hs, s.actual.scan = .ok hs → ∃ n t, s.reap now = .ok (n, { s with actual := t }) ∧
    s.actual.Deleted (hs.filter fun h => !h.isCurrent s.heartbeatTtl now) n t

theorem tidyOf (keyed : s.Keyed) (legible : s.Legible) : s.Tidy where
  desired := Rows.tidyOf keyed.desired legible.desired
  actual := Rows.tidyOf keyed.actual legible.actual
  crashCounts := Rows.tidyOf keyed.crashCounts legible.crashCounts
  starts := Rows.tidyOf keyed.starts legible.starts
  stops := Rows.tidyOf keyed.stops legible.stops
  deletesCrashCounts _ scan _ drawn := ⟨_, _, rfl, Rows.removedScanned keyed.crashCounts scan drawn⟩
  deletesStarts _ scan _ drawn := ⟨_, _, rfl, Rows.removedScanned keyed.starts scan drawn⟩
  deletesStops _ scan _ drawn := ⟨_, _, rfl, Rows.removedScanned keyed.stops scan drawn⟩
  reaps now _ scan := ⟨_, _, reapRead scan now,
    Rows.removedScanned keyed.actual scan (List.filter_subset_self _)⟩

theorem changesTidy (ttl : Span) (changes : List Change)
    (small : ∀ change ∈ changes, ∀ start ∈ change.startsWritten,
      start.priority.magnitude ≤ Binary64.one) :
    ((empty ttl).changed changes).Tidy := by
  have reached : ((empty ttl).changed changes).Reachable ttl :=
    List.foldlRecOn (motive := Reachable ttl) changes _ .empty
      fun _ reachable change _ => changeReachable reachable change
  have legible : ((empty ttl).changed changes).Legible :=
    List.foldlRecOn (motive := Legible) changes _ (emptyLegible ttl)
      fun _ legible change member => changeLegible legible (small change member)
  exact tidyOf (reachableKeyed reached) legible

def startOf (app : App) (index id : Nat) (priority : Nat) : Start :=
  ⟨app, index, .missing, ⟨false, priority⟩, ⟨id, 1030, 0, 0, false⟩⟩

def entangled : List Change := [
  .sync [⟨⟨"a,b", "c"⟩, 1, .started, .staged, 0⟩, ⟨⟨"a", "b,c"⟩, 2, .started, .staged, 0⟩] 1000,
  .report [⟨⟨"a,b", "c"⟩, 0, "x", .running, 900⟩, ⟨⟨"a", "b,c"⟩, 1, "x", .crashed, 1000⟩] 1000,
  .call (.saveAnalysis [startOf ⟨"a,b", "c"⟩ 0 1 0, startOf ⟨"a", "b,c"⟩ 0 2 4483535635582003850,
    startOf ⟨"a", "b,c"⟩ 1 3 0] [] [⟨⟨"a,b", "c"⟩, 0, 1, 1000⟩]),
  .reap 1000]

theorem entangledTidy :
    (∀ change ∈ entangled, ∀ start ∈ change.startsWritten, start.priority.magnitude ≤ Binary64.one) ∧
    ∃ s t, s = (empty (.ofSecs 30)).changed entangled ∧
      s.starts.scan = .ok [startOf ⟨"a", "b,c"⟩ 0 2 4483535635582003849, startOf ⟨"a", "b,c"⟩ 1 3 0] ∧
      s.deleteStarts (List.replicate 2 (startOf ⟨"a", "b,c"⟩ 0 2 4483535635582003849)) =
        (1, { s with starts := t }) ∧
      t.size = 1 ∧ t.get? "a,b,c,1" = some (.held (startOf ⟨"a", "b,c"⟩ 1 3 0)) := by
  have small : ∀ change ∈ entangled, ∀ start ∈ change.startsWritten,
      start.priority.magnitude ≤ Binary64.one := by decide +kernel
  have scan : ((empty (.ofSecs 30)).changed entangled).starts.scan =
      .ok [startOf ⟨"a", "b,c"⟩ 0 2 4483535635582003849, startOf ⟨"a", "b,c"⟩ 1 3 0] := by
    decide +kernel
  have rows : ((empty (.ofSecs 30)).changed entangled).starts.size = 2 := by decide +kernel
  have other : ((empty (.ofSecs 30)).changed entangled).starts.get? "a,b,c,1" =
      some (.held (startOf ⟨"a", "b,c"⟩ 1 3 0)) := by decide +kernel
  have tidy := changesTidy (.ofSecs 30) entangled small
  obtain ⟨n, t, deletes, deleted⟩ := tidy.deletesStarts _ scan
    (List.replicate 2 (startOf ⟨"a", "b,c"⟩ 0 2 4483535635582003849)) (by decide)
  obtain rfl : n = 1 := deleted.count
  refine ⟨small, _, t, rfl, scan, deletes, ?_, (deleted.rows _ _).mpr ⟨other, ?_⟩⟩
  · have size := deleted.size
    omega
  · decide +kernel

end Store
end Fleet
