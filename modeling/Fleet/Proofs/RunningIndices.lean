import Mathlib.Data.List.Perm.Subperm
import Fleet.View
import Fleet.Proofs.Rows

/-! The table of running instances by index. It holds for each index how many instances are
live there, and no index where none is; so the wanted indices that it holds are those that
are not unsatisfied, and there are no more of them than are wanted. -/
namespace Fleet
namespace View
variable {v : View} {i : Nat}

theorem runningFrom (l : List Heartbeat) (t : Table Nat Nat) (i : Nat) :
    (l.foldl (fun t h => t.alter h.index fun n => n.getD 0 + 1) t).get? i =
      if l.filter (·.index = i) = [] then t.get? i
      else some ((t.get? i).getD 0 + (l.filter (·.index = i)).length) := by
  induction l generalizing t with
  | nil => simp
  | cons h rest ih =>
    rw [List.foldl_cons, ih, Table.alter, Table.getInsert]
    by_cases here : h.index = i
    · subst here
      by_cases none : rest.filter (·.index = h.index) = []
      · simp [none]
      · simp [none]
        omega
    · have other : ¬ i = h.index := fun same => here same.symm
      simp [here, other]

theorem runningAt (v : View) (i : Nat) :
    v.running.get? i = if v.liveAt i = [] then none else some (v.liveAt i).length := by
  have same : v.live.filter (·.index = i) = v.liveAt i := by
    rw [live, List.filter_filter]
    rfl
  rw [running, runningFrom, same, Table.getEmpty, Option.getD_none, Nat.zero_add]

theorem runningSome {n : Nat} : v.running.get? i = some n ↔ v.liveAt i ≠ [] ∧ (v.liveAt i).length = n := by
  rw [runningAt, Option.ite_none_left_eq_some, Option.some_inj]

theorem memRunning : i ∈ v.running.keys ↔ v.liveAt i ≠ [] := by
  simp only [Rows.memKeys, runningSome, exists_and_left, exists_eq', and_true]

theorem liveAtFew (v : View) (i : Nat) : (v.liveAt i).length ≤ v.heartbeats.length :=
  List.length_filter_le _ _

theorem satisfiedPerm (v : View) : (v.running.keys.filter (· < v.target)).Perm
    ((List.range v.target).filter fun i => v.liveAt i ≠ []) := by
  refine (List.perm_ext_iff_of_nodup ((Rows.keysDistinct v.running).filter _)
    (List.nodup_range.filter _)).mpr fun i => ?_
  simp only [List.mem_filter, memRunning, List.mem_range, decide_eq_true_eq, and_comm]

theorem satisfiedWanted (v : View) :
    v.satisfied = ((List.range v.target).filter fun i => v.liveAt i ≠ []).length :=
  v.satisfiedPerm.length_eq

theorem satisfiedWithin (v : View) : v.satisfied ≤ v.target := by
  rw [satisfiedWanted]
  calc ((List.range v.target).filter fun i => v.liveAt i ≠ []).length ≤ (List.range v.target).length :=
        List.length_filter_le _ _
    _ = v.target := List.length_range

theorem satisfiedFew (v : View) : v.satisfied ≤ v.heartbeats.length := by
  have inside : v.running.keys.filter (· < v.target) ⊆ v.heartbeats.map Heartbeat.index := by
    intro i member
    obtain ⟨h, live⟩ := List.exists_mem_of_ne_nil _ (memRunning.mp (List.mem_filter.mp member).1)
    obtain ⟨listed, here, _⟩ := memLiveAt.mp live
    exact List.mem_map.mpr ⟨h, listed, here⟩
  have few := (List.subperm_of_subset ((Rows.keysDistinct v.running).filter _) inside).length_le
  rwa [List.length_map] at few

end View
end Fleet
