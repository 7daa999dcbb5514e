import Fleet.Proofs.Reachability

/-! What a reap takes from a store. It removes the heartbeats that no longer count at its time,
and one that has stopped counting never counts again later, so whoever reads the reported state
from then on reads the same with or without the reap. -/
namespace Fleet

theorem Heartbeat.currentEarlier {h : Heartbeat} {ttl r t : Nat} (order : r ≤ t)
    (lasts : h.isCurrent ttl t = true) : h.isCurrent ttl r = true := by
  simp only [isCurrent, decide_eq_true_eq] at *
  omega

namespace Store
variable {ttl : Span} {s s' : Store} {hs : List Heartbeat} {r t : Nat}

theorem reportsReadable (reachable : s.Reachable ttl) : Rows.Readable s.actual := by
  induction reachable with
  | empty => exact Rows.readableEmpty
  | report heartbeats receivedAt _ readable =>
    exact Rows.readablePut readable fun h _ => ⟨h, Heartbeat.settle h⟩
  | reap _ reaped readable =>
    obtain ⟨gone, rfl⟩ := reapedRest reaped
    exact Rows.readableRemove readable gone
  | serve _ served readable =>
    obtain ⟨_, _, _, _, _, same⟩ := serveFrame served
    rw [same]
    exact readable
  | sync _ _ _ readable | refreshDesired _ _ readable | refreshActual _ _ readable => exact readable

theorem actualRead (scan : s.actual.scan = .ok hs) (t : Nat) :
    s.actualState t = .ok (hs.filter (·.isCurrent s.heartbeatTtl t)) := by
  rw [actualState, scan]
  rfl

def outlived (s : Store) (hs : List Heartbeat) (r : Nat) : List String :=
  (hs.filter fun h => !h.isCurrent s.heartbeatTtl r).map Heartbeat.key

theorem reapRead (scan : s.actual.scan = .ok hs) (r : Nat) :
    s.reap r = .ok ((s.actual.remove (s.outlived hs r)).1,
      { s with actual := (s.actual.remove (s.outlived hs r)).2 }) := by
  rw [reap, scan]
  rfl

section
variable (own : Rows.Own Heartbeat.key s.actual) (scan : s.actual.scan = .ok hs)
include own scan

theorem outlivedKey {h : Heartbeat} (member : h ∈ hs) :
    h.key ∉ s.outlived hs r ↔ h.isCurrent s.heartbeatTtl r = true := by
  rw [outlived, Rows.memOfKey (Rows.ownScanDistinct own scan) (fun a inside =>
    (List.mem_filter.mp inside).1) member]
  simp [member]

theorem reapedScan : (s.actual.remove (s.outlived hs r)).2.scan =
    .ok (hs.filter (·.isCurrent s.heartbeatTtl r)) := by
  rw [Rows.scanRemoved own scan]
  refine congrArg _ (List.filter_congr fun h member => ?_)
  simp only [outlivedKey own scan member, Bool.decide_eq_true]

theorem reapedRows {k : String} {row : Row Heartbeat} :
    (s.actual.remove (s.outlived hs r)).2.get? k = some row ↔
      s.actual.get? k = some row ∧
        ∃ h ∈ hs.filter (·.isCurrent s.heartbeatTtl r), row.read = .ok h := by
  rw [Rows.getRemove]
  constructor
  · intro found
    split at found
    · cases found
    rename_i stays
    obtain ⟨h, member, reads⟩ := Rows.scanReads scan found
    obtain rfl := own k row h found reads
    exact ⟨found, h, List.mem_filter.mpr ⟨member, (outlivedKey own scan member).mp stays⟩, reads⟩
  · rintro ⟨found, h, member, reads⟩
    obtain rfl := own k row h found reads
    obtain ⟨listed, current⟩ := List.mem_filter.mp member
    rw [if_neg ((outlivedKey own scan listed).mpr current), found]

end

structure Reaped (s s' : Store) (r n : Nat) (current : List Heartbeat) : Prop where
  read : s.actualState r = .ok current
  rows : ∀ k row, s'.actual.get? k = some row ↔
    s.actual.get? k = some row ∧ ∃ h ∈ current, row.read = .ok h
  count : n + s'.actual.size = s.actual.size
  rest : s' = { s with actual := s'.actual }
  later : ∀ t, r ≤ t → ∃ hs, s.actualState t = .ok hs ∧ s'.actualState t = .ok hs

theorem reapUnseen (reachable : s.Reachable ttl) (r : Nat) :
    ∃ n s' current, s.reap r = .ok (n, s') ∧ Reaped s s' r n current := by
  have own := (reachableKeyed reachable).actual
  obtain ⟨hs, scan⟩ := Rows.readableScan (reportsReadable reachable)
  refine ⟨_, _, _, reapRead scan r, actualRead scan r, fun k row => reapedRows own scan,
    Rows.removeSize _ _, rfl, fun t order => ⟨_, actualRead scan t, ?_⟩⟩
  have left := actualRead (s := { s with actual := (s.actual.remove (s.outlived hs r)).2 })
    (reapedScan own scan) t
  rw [left, List.filter_filter]
  refine congrArg _ (List.filter_congr fun h _ => ?_)
  cases lasts : h.isCurrent s.heartbeatTtl t with
  | false => rfl
  | true => rw [Heartbeat.currentEarlier order lasts]; rfl

def crossing : Store :=
  (Store.empty (.ofMillis 999)).saveActual [
    ⟨⟨"a", "b,c"⟩, 0, "x", .running, 990⟩,
    ⟨⟨"a,b", "c"⟩, 0, "x", .running, 1000⟩,
    ⟨⟨"a", "b"⟩, 1, "y", .crashed, 999⟩,
    ⟨⟨"a", "b"⟩, 2, "z", .starting, 1005⟩] 1000

theorem crossingReaped : crossing.Reachable (.ofMillis 999) ∧
    ∃ s', crossing.reap 1000 = .ok (1, s') ∧ Reaped crossing s' 1000 1
      [⟨⟨"a,b", "c"⟩, 0, "x", .running, 1000⟩, ⟨⟨"a", "b"⟩, 2, "z", .starting, 1005⟩] := by
  have reachable : crossing.Reachable (.ofMillis 999) := .report _ _ .empty
  obtain ⟨n, s', current, reaped, done⟩ := reapUnseen reachable 1000
  have removed : (crossing.reap 1000).map Prod.fst = .ok 1 := by decide +kernel
  have read : crossing.actualState 1000 = .ok [⟨⟨"a,b", "c"⟩, 0, "x", .running, 1000⟩,
    ⟨⟨"a", "b"⟩, 2, "z", .starting, 1005⟩] := by decide +kernel
  rw [reaped] at removed
  obtain rfl : n = 1 := Except.ok.inj removed
  cases read.symm.trans done.read
  exact ⟨reachable, s', reaped, done⟩

end Store
end Fleet
