import Fleet.Record.Action
import Fleet.Proofs.Rows

/-! What comes back of a record that was written. Only the priority of a start passes
through decimal digits and may change; everything else is read as it was written, and
the key of a record always is. -/
namespace Fleet

@[simp] theorem Spec.settle (s : Spec) : Record.settle s = some s := by
  simp [Record.settle, Record.toCells, Record.ofCells?, Cell.settle]

@[simp] theorem Heartbeat.settle (h : Heartbeat) : Record.settle h = some h := by
  simp [Record.settle, Record.toCells, Record.ofCells?, Cell.settle]

@[simp] theorem CrashCount.settle (c : CrashCount) : Record.settle c = some c := by
  simp [Record.settle, Record.toCells, Record.ofCells?, Cell.settle]

@[simp] theorem Stop.settle (s : Stop) : Record.settle s = some s := by
  simp [Record.settle, Record.toCells, Record.ofCells?, Cell.settle]

theorem Heartbeat.settleKey (h a : Heartbeat) (settled : Record.settle h = some a) : a.key = h.key := by
  rw [Heartbeat.settle] at settled
  cases settled
  rfl

theorem CrashCount.settleKey (c a : CrashCount) (settled : Record.settle c = some a) : a.key = c.key := by
  rw [CrashCount.settle] at settled
  cases settled
  rfl

theorem Start.settle (s : Start) :
    Record.settle s = s.priority.reread.map fun p => { s with priority := p } := by
  cases h : s.priority.reread <;>
    simp [Record.settle, Record.toCells, Record.ofCells?, Cell.settle, h]

theorem Start.settleSome {s a : Start} (h : Record.settle s = some a) :
    ∃ p, s.priority.reread = some p ∧ a = { s with priority := p } := by
  rw [Start.settle, Option.map_eq_some_iff] at h
  obtain ⟨p, reread, same⟩ := h
  exact ⟨p, reread, same.symm⟩

theorem Start.settleKey (s a : Start) (h : Record.settle s = some a) : a.key = s.key := by
  obtain ⟨p, _, rfl⟩ := Start.settleSome h
  rfl

theorem Stop.settleKey (s a : Stop) (h : Record.settle s = some a) : a.key = s.key := by
  rw [Stop.settle] at h
  cases h
  rfl

end Fleet
