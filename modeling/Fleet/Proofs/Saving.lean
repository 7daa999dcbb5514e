import Fleet.Proofs.Rows
import Fleet.Procedure

/-! An analysis may be saved by one call or by three in turn, one for each table. The stores
that are left are the same, so no procedure that saves can tell how it is done. -/
namespace Fleet

structure Rows.Written {α : Type} (key : α → String) (records : List α) (t t' : Rows α) : Prop where
  last : ∀ front r rest, records = front ++ r :: rest → (∀ a ∈ rest, key a ≠ key r) →
    t'.get? (key r) = some (.held r)
  others : ∀ k, k ∉ records.map key → t'.get? k = t.get? k

theorem Rows.putWritten {α : Type} (key : α → String) (t : Rows α) (records : List α) :
    Written key records t (put key t records) where
  last front r rest split after := by
    rw [split, putAppend, putCons, getPutOther after, Table.getInsert, if_pos rfl]
  others k absent := getPutOther fun r member same => absent (List.mem_map.mpr ⟨r, member, same⟩)

namespace Store
variable {s : Store} {starts : List Start} {stops : List Stop} {counts : List CrashCount}

structure Saved (starts : List Start) (stops : List Stop) (counts : List CrashCount) (s s' : Store) :
    Prop where
  starts : Rows.Written Start.key starts s.starts s'.starts
  stops : Rows.Written Stop.key stops s.stops s'.stops
  crashCounts : Rows.Written CrashCount.key counts s.crashCounts s'.crashCounts
  rest : s' = { s with starts := s'.starts, stops := s'.stops, crashCounts := s'.crashCounts }

theorem savedAnalysis : s.Saved starts stops counts (s.saveAnalysis starts stops counts) :=
  ⟨Rows.putWritten _ _ _, Rows.putWritten _ _ _, Rows.putWritten _ _ _, rfl⟩

end Store

def World.saved (w : World) (starts : List Start) (stops : List Stop) (counts : List CrashCount) :
    World :=
  { w with store := w.store.saveAnalysis starts stops counts }

structure Surroundings.Saves (s : Surroundings) : Prop where
  whole : "save_analysis" ∉ s.failing
  starts : "save_pending_starts" ∉ s.failing
  stops : "save_pending_stops" ∉ s.failing
  counts : "save_crash_counters" ∉ s.failing

namespace Procedure
variable {α : Type} {s : Surroundings}

section
variable (may : s.Saves) (w : World) (starts : List Start) (stops : List Stop) (counts : List CrashCount)
include may

theorem wholeAttempt : attempt s (.saveAnalysis starts stops counts) w =
    .ok (.ok (), w.saved starts stops counts) := if_neg may.whole

theorem wholeRun : (ask (.saveAnalysis starts stops counts)).run s w =
    (.ok (.ok ()), w.saved starts stops counts) := by
  rw [ask, run, wholeAttempt may]
  rfl

theorem inTurnRun : (saveInTurn starts stops counts).run s w =
    (.ok (.ok ()), w.saved starts stops counts) := by
  have first : attempt s (.saveStarts starts) w = .ok (.ok (), _) := if_neg may.starts
  have second (w : World) : attempt s (.saveStops stops) w = .ok (.ok (), _) := if_neg may.stops
  have third (w : World) : attempt s (.saveCrashCounts counts) w = .ok (.ok (), _) := if_neg may.counts
  simp only [saveInTurn, run, first, second, third]
  rfl

end

theorem splitRun (may : s.Saves) (p : Procedure α) (w : World) : p.split.run s w = p.run s w := by
  induction p generalizing w with
  | done a => rfl
  | halt o => rfl
  | call c next ih =>
    cases c with
    | saveAnalysis starts stops counts =>
      rw [split, runBind, inTurnRun may, run, wholeAttempt may]
      exact ih _ _
    | _ =>
      simp only [split, run]
      split
      · rfl
      · exact ih _ _

theorem savedAlike (may : s.Saves) (w : World) (starts : List Start) (stops : List Stop)
    (counts : List CrashCount) :
    (∃ w', (ask (.saveAnalysis starts stops counts)).run s w = (.ok (.ok ()), w') ∧
      (saveInTurn starts stops counts).run s w = (.ok (.ok ()), w') ∧
      w'.sent = w.sent ∧ w.store.Saved starts stops counts w'.store) ∧
    ∀ {β : Type} (p : Procedure β), p.split.run s w = p.run s w :=
  ⟨⟨w.saved starts stops counts, wholeRun may w starts stops counts,
    inTurnRun may w starts stops counts, rfl, Store.savedAnalysis⟩, fun p => splitRun may p w⟩

def missingAt (index id : Nat) : Start := ⟨⟨"web", "v1"⟩, index, .missing, .zero, ⟨id, 30, 0, 0, false⟩⟩

def heldTwice : World := ⟨(Store.empty .zero).saveStarts [missingAt 0 1, missingAt 1 2], []⟩

theorem heldTwiceAlike : Surroundings.Saves { failing := ["send"] } ∧
    ∃ w', (ask (.saveAnalysis [missingAt 0 3, missingAt 2 4, missingAt 0 5] [] [])).run
        { failing := ["send"] } heldTwice = (.ok (.ok ()), w') ∧
      (saveInTurn [missingAt 0 3, missingAt 2 4, missingAt 0 5] [] []).run
        { failing := ["send"] } heldTwice = (.ok (.ok ()), w') ∧
      w'.store.starts.get? "web,v1,0" = some (.held (missingAt 0 5)) ∧
      w'.store.starts.get? "web,v1,1" = some (.held (missingAt 1 2)) ∧
      w'.store.starts.get? "web,v1,2" = some (.held (missingAt 2 4)) := by
  have may : Surroundings.Saves { failing := ["send"] } := by constructor <;> decide
  obtain ⟨⟨w', whole, inTurn, _, saved⟩, _⟩ := savedAlike may heldTwice
    [missingAt 0 3, missingAt 2 4, missingAt 0 5] [] []
  have kept : heldTwice.store.starts.get? "web,v1,1" = some (.held (missingAt 1 2)) := by decide +kernel
  refine ⟨may, w', whole, inTurn, ?_, ?_, ?_⟩
  · exact saved.starts.last [missingAt 0 3, missingAt 2 4] (missingAt 0 5) [] rfl nofun
  · rw [saved.starts.others "web,v1,1" (by decide +kernel), kept]
  · exact saved.starts.last [missingAt 0 3] (missingAt 2 4) [missingAt 0 5] rfl (by decide +kernel)

end Procedure
end Fleet
