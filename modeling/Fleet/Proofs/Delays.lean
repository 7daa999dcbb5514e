import Fleet.Settings.File
import Fleet.Proofs.Priorities

/-! How long an index waits for its restart, by the count of its crashes. From the least count
on the delay doubles with every crash, up to the longest one. After 32 doublings the factor is
at the end of its range and stays there, so the doubling is exact for any count only where the
longest delay has been reached by then. -/
namespace Fleet

namespace Backoff
variable {b : Backoff} {m n : Nat}

theorem shorterNanos (a b : Span) : (a.shorter b).nanos = min a.nanos b.nanos := by
  unfold Span.shorter
  split <;> omega

theorem factorDoubled (h : n < 32) : factor n = twoTo n := if_pos h

theorem factorTop (h : 32 ≤ n) : factor n = Bounds.count := if_neg (Nat.not_lt.mpr h)

theorem topBelow (h : 32 ≤ n) : Bounds.count < twoTo n :=
  calc Bounds.count < twoTo 32 := by decide
    _ ≤ twoTo n := twoToMono h

theorem factorMono (h : m ≤ n) : factor m ≤ factor n := by
  unfold factor
  split <;> split
  · exact twoToMono h
  · calc twoTo m ≤ twoTo 31 := twoToMono (by omega)
      _ ≤ Bounds.count := by decide
  · omega
  · exact Nat.le_refl _

theorem delayLongest (b : Backoff) (n : Nat) : (b.delay n).nanos ≤ b.maximumDelay.nanos := by
  unfold delay
  split
  · exact Nat.zero_le _
  · rw [shorterNanos]
    exact Nat.min_le_right _ _

theorem delayMono (b : Backoff) (h : m ≤ n) : (b.delay m).nanos ≤ (b.delay n).nanos := by
  by_cases few : m < b.minimumCrashes
  · rw [delay, if_pos few]
    exact Nat.zero_le _
  have many : ¬ n < b.minimumCrashes := by omega
  have grows := Nat.mul_le_mul_left b.startingDelay.nanos
    (factorMono (Nat.sub_le_sub_right h b.minimumCrashes))
  rw [delay, delay, if_neg few, if_neg many, shorterNanos, shorterNanos]
  unfold Span.times?
  -- A product that leaves its range counts as the longest delay.
  split <;> split
  · simp only [Option.getD_some]
    omega
  · simp only [Option.getD_some, Option.getD_none]
    omega
  · omega
  · exact Nat.le_refl _

def doubled (b : Backoff) (n : Nat) : Nat :=
  if n < b.minimumCrashes then 0
  else min (b.startingDelay.nanos * twoTo (n - b.minimumCrashes)) b.maximumDelay.nanos

/-- There are fewer than 32 doublings, or nothing to double, or no room left for the 32nd. -/
def Doubles (b : Backoff) (n : Nat) : Prop :=
  n < b.minimumCrashes + 32 ∨ b.startingDelay.nanos = 0 ∨
    b.maximumDelay.nanos ≤ b.startingDelay.nanos * Bounds.count

section
variable (range : b.maximumDelay.nanos ≤ Span.longest)
include range

theorem delayFactor (many : b.minimumCrashes ≤ n) : (b.delay n).nanos =
    min (b.startingDelay.nanos * factor (n - b.minimumCrashes)) b.maximumDelay.nanos := by
  rw [delay, if_neg (Nat.not_lt.mpr many), shorterNanos, Span.times?]
  split
  · rw [Option.getD_some]
  · rw [Option.getD_none]
    omega

theorem delayDoubled (doubles : b.Doubles n) : (b.delay n).nanos = b.doubled n := by
  by_cases few : n < b.minimumCrashes
  · rw [delay, doubled, if_pos few, if_pos few]
    rfl
  rw [delayFactor range (Nat.not_lt.mp few), doubled, if_neg few]
  by_cases within : n - b.minimumCrashes < 32
  · rw [factorDoubled within]
  have top := Nat.not_lt.mp within
  rw [factorTop top]
  rcases doubles with below | nothing | reached
  · omega
  · rw [nothing, Nat.zero_mul, Nat.zero_mul]
  · -- Both products are beyond the longest delay.
    have more := Nat.mul_le_mul_left b.startingDelay.nanos (Nat.le_of_lt (topBelow top))
    rw [Nat.min_eq_right reached, Nat.min_eq_right (reached.trans more)]

theorem delayFrozen (stops : ¬ b.Doubles n) :
    (b.delay n).nanos = b.startingDelay.nanos * Bounds.count ∧ (b.delay n).nanos < b.doubled n := by
  obtain ⟨many, some, room⟩ := not_or.mp stops |>.imp_right not_or.mp
  have top : 32 ≤ n - b.minimumCrashes := by omega
  have more := Nat.mul_lt_mul_of_pos_left (topBelow top) (Nat.pos_of_ne_zero some)
  have frozen : (b.delay n).nanos = b.startingDelay.nanos * Bounds.count := by
    rw [delayFactor range (by omega), factorTop top]
    omega
  refine ⟨frozen, ?_⟩
  rw [frozen, doubled, if_neg (by omega)]
  omega

omit range in
theorem doublesEarlier (doubles : b.Doubles (n + 1)) : b.Doubles n := by
  rcases doubles with below | rest
  · exact .inl (by omega)
  · exact .inr rest

omit range in
theorem doubledNext (many : b.minimumCrashes ≤ n) :
    b.doubled (n + 1) = min (2 * b.doubled n) b.maximumDelay.nanos := by
  have next : n + 1 - b.minimumCrashes = n - b.minimumCrashes + 1 := by omega
  rw [doubled, doubled, if_neg (by omega), if_neg (by omega), next, twoToSucc, Nat.mul_left_comm]
  omega

theorem delayFormula (n : Nat) :
    ((b.delay n).nanos = b.doubled n ↔ b.Doubles n) ∧
    (b.minimumCrashes ≤ n → b.Doubles (n + 1) →
      (b.delay (n + 1)).nanos = min (2 * (b.delay n).nanos) b.maximumDelay.nanos) ∧
    (¬ b.Doubles n → (b.delay n).nanos = b.startingDelay.nanos * Bounds.count ∧
      (b.delay n).nanos < b.doubled n) := by
  refine ⟨⟨fun same => ?_, delayDoubled range⟩, fun many doubles => ?_, delayFrozen range⟩
  · by_contra stops
    exact Nat.ne_of_lt (delayFrozen range stops).2 same
  · rw [delayDoubled range doubles, delayDoubled range (doublesEarlier doubles), doubledNext many]

end

def fine : Backoff := { startingDelay := .ofMillis 1, maximumDelay := .ofSecs 10000000 }

theorem fineFormula : fine.maximumDelay.nanos ≤ Span.longest ∧ fine.Doubles 34 ∧
    fine.delay 34 = .ofMillis 2147483648 ∧
    ((fine.delay 34).nanos = fine.doubled 34 ↔ fine.Doubles 34) ∧
    (fine.minimumCrashes ≤ 33 → fine.Doubles 34 →
      (fine.delay 34).nanos = min (2 * (fine.delay 33).nanos) fine.maximumDelay.nanos) ∧
    (¬ fine.Doubles 35 → (fine.delay 35).nanos = fine.startingDelay.nanos * Bounds.count ∧
      (fine.delay 35).nanos < fine.doubled 35) := by
  have range : fine.maximumDelay.nanos ≤ Span.longest := by decide
  exact ⟨range, .inl (by decide), by decide +kernel, (delayFormula range 34).1,
    (delayFormula range 33).2.1, (delayFormula range 35).2.2⟩

/-- Settings that are accepted, and a delay that falls a millisecond short of its 32nd doubling
and then stands still, though the longest one is more than twice as long. -/
theorem fineStandsStill : ∃ s policy,
    Settings.ofText "[crash_backoff]\nstarting_delay = \"1ms\"\nmaximum_delay = \"10000000s\"\n" = .ok s ∧
    s.policy = .ok policy ∧ policy.backoff.startingDelay.nanos ≤ policy.backoff.maximumDelay.nanos ∧
    policy.backoff.delay 35 = .ofMillis 4294967295 ∧
    policy.backoff.doubled 35 = (Span.ofMillis 4294967296).nanos ∧
    (policy.backoff.delay 35).nanos ≠ policy.backoff.doubled 35 ∧
    policy.backoff.delay 36 = policy.backoff.delay 35 ∧
    2 * (policy.backoff.delay 35).nanos < policy.backoff.maximumDelay.nanos := by
  refine ⟨⟨⟨"/var/lib/steward/steward.redb", "30s", "60s"⟩, ⟨"30s", "10s", "10s", 30⟩,
    ⟨3, "1ms", "10000000s", "32m"⟩, ⟨"127.0.0.1:9022", "5s"⟩, ⟨9030⟩⟩, { backoff := fine },
    by decide +kernel, by decide +kernel, ?_⟩
  decide +kernel

end Backoff
end Fleet
