import Fleet.Proofs.RunningIndices

/-! How many of the wanted indices are short of an instance, which is the upper part of the
priority of a start. It is counted in 32 bits: no count of an index passes the largest one, as
there are no more instances there than are reported, and what is taken from the wanted indices
is never more than they are. -/
namespace Fleet
namespace View
variable {v : View}

def countOne? (t : Table Nat Nat) (h : Heartbeat) : Option (Table Nat Nat) :=
  let n := (t.get? h.index).getD 0
  if n < Bounds.count then some (t.insert h.index (n + 1)) else none

def running? (v : View) : Option (Table Nat Nat) := v.live.foldlM countOne? .empty

def shortfall? (v : View) : Option Nat := do
  let running ← v.running?
  let satisfied := (running.keys.filter (· < v.target)).length % (Bounds.count + 1)
  if satisfied ≤ v.target then some (v.target - satisfied) else none

def vacant (v : View) : List Nat := (List.range v.target).filter fun i => v.liveAt i = []

theorem memVacant {i : Nat} : i ∈ v.vacant ↔ i < v.target ∧ v.liveAt i = [] := by
  simp [vacant]

theorem countedWithin (l : List Heartbeat) (t : Table Nat Nat)
    (room : ∀ i, (t.get? i).getD 0 + l.length ≤ Bounds.count) :
    l.foldlM countOne? t = some (l.foldl (fun t h => t.alter h.index fun n => n.getD 0 + 1) t) := by
  induction l generalizing t with
  | nil => rfl
  | cons h rest ih =>
    simp only [List.length_cons] at room
    have below : (t.get? h.index).getD 0 < Bounds.count := by
      have := room h.index
      omega
    rw [List.foldlM_cons, List.foldl_cons, countOne?, if_pos below]
    apply ih
    intro i
    rw [Table.getInsert]
    split
    · have := room h.index
      simp only [Option.getD_some]
      omega
    · have := room i
      omega

theorem runningCounted (few : v.heartbeats.length ≤ Bounds.count) : v.running? = some v.running := by
  apply countedWithin
  intro i
  have live : v.live.length ≤ v.heartbeats.length := List.length_filter_le _ _
  rw [Table.getEmpty, Option.getD_none]
  omega

theorem vacantLeft (v : View) : v.target - v.satisfied = v.vacant.length := by
  have parts := (List.range v.target).length_eq_length_filter_add fun i => v.liveAt i ≠ []
  have others : ((List.range v.target).filter fun i => !decide (v.liveAt i ≠ [])) = v.vacant := by
    simp [vacant]
  rw [others, List.length_range, ← satisfiedWanted] at parts
  omega

theorem shortfallCounted (few : v.heartbeats.length ≤ Bounds.count) :
    v.shortfall? = some v.vacant.length := by
  have counted : (v.running.keys.filter (· < v.target)).length = v.satisfied := rfl
  have whole : v.satisfied % (Bounds.count + 1) = v.satisfied :=
    Nat.mod_eq_of_lt (Nat.lt_succ_of_le (Nat.le_trans v.satisfiedFew few))
  simp only [shortfall?, runningCounted few, Option.bind_eq_bind, Option.bind_some, counted, whole]
  rw [if_pos v.satisfiedWithin, vacantLeft]

theorem vacantShare (v : View) :
    v.unsatisfied = if v.target = 0 then .zero else .ofRatio v.vacant.length v.target := by
  rw [unsatisfied, vacantLeft]

theorem vacantAll : v.vacant.length = v.target ↔ ∀ i < v.target, v.liveAt i = [] := by
  have all := List.length_filter_eq_length_iff (l := List.range v.target)
    (p := fun i => decide (v.liveAt i = []))
  rw [List.length_range] at all
  simpa [vacant] using all

theorem vacantNone : v.vacant.length = 0 ↔ ∀ i < v.target, v.liveAt i ≠ [] := by
  rw [List.length_eq_zero_iff, List.eq_nil_iff_forall_not_mem]
  simp [memVacant]

structure Shares (v : View) : Prop where
  counts : ∀ i n, v.running.get? i = some n ↔ v.liveAt i ≠ [] ∧ (v.liveAt i).length = n
  running : v.running? = some v.running
  satisfied : v.satisfied ≤ v.target ∧ v.satisfied ≤ Bounds.count
  numerator : v.target - v.satisfied = v.vacant.length
  shortfall : v.shortfall? = some v.vacant.length
  share : v.unsatisfied = if v.target = 0 then .zero else .ofRatio v.vacant.length v.target
  all : v.vacant.length = v.target ↔ ∀ i < v.target, v.liveAt i = []
  none : v.vacant.length = 0 ↔ ∀ i < v.target, v.liveAt i ≠ []

theorem shortfallExact (few : v.heartbeats.length ≤ Bounds.count) : Shares v where
  counts _ _ := runningSome
  running := runningCounted few
  satisfied := ⟨v.satisfiedWithin, Nat.le_trans v.satisfiedFew few⟩
  numerator := v.vacantLeft
  shortfall := shortfallCounted few
  share := v.vacantShare
  all := vacantAll
  none := vacantNone

def patchy : View :=
  ⟨⟨"web", "v1"⟩, some ⟨⟨"web", "v1"⟩, 4, .started, .staged, 0⟩,
    [⟨⟨"web", "v1"⟩, 0, "a", .running, 9⟩, ⟨⟨"web", "v1"⟩, 0, "b", .running, 9⟩,
      ⟨⟨"web", "v1"⟩, 2, "c", .running, 9⟩, ⟨⟨"web", "v1"⟩, 9, "d", .running, 9⟩,
      ⟨⟨"web", "v1"⟩, 3, "e", .crashed, 9⟩]⟩

theorem patchyExact : patchy.heartbeats.length ≤ Bounds.count ∧ Shares patchy ∧
    patchy.running.entries = [(0, 2), (2, 1), (9, 1)] ∧ patchy.vacant = [1, 3] ∧
    patchy.shortfall? = some 2 := by
  have few : patchy.heartbeats.length ≤ Bounds.count := by decide
  have shares := shortfallExact few
  have vacant : patchy.vacant = [1, 3] := by decide
  have two := shares.shortfall
  rw [vacant] at two
  exact ⟨few, shares, by decide +kernel, vacant, two⟩

end View
end Fleet
