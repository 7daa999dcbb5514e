import Mathlib.Data.Nat.Log
import Mathlib.Tactic.Ring
import Fleet.Numeral.Shortest
import Fleet.View

/-! The priority of a start is a share of the wanted instances, so it lies between zero
and one, and a value up to one is never lost when it is written and read: its shortest
digits spell no large number, and reading them multiplies by no power of ten. -/
namespace Fleet

theorem twoToPos (n : Nat) : 0 < twoTo n := Nat.pow_pos (by decide)

theorem tenToPos (n : Nat) : 0 < tenTo n := Nat.pow_pos (by decide)

theorem twoToAdd (m n : Nat) : twoTo (m + n) = twoTo m * twoTo n := Nat.pow_add 2 m n

theorem tenToAdd (m n : Nat) : tenTo (m + n) = tenTo m * tenTo n := Nat.pow_add 10 m n

theorem twoToMono {m n : Nat} (h : m ≤ n) : twoTo m ≤ twoTo n := Nat.pow_le_pow_right (by decide) h

theorem tenToMono {m n : Nat} (h : m ≤ n) : tenTo m ≤ tenTo n := Nat.pow_le_pow_right (by decide) h

theorem fiveTwo (n : Nat) : fiveTo n * twoTo n = tenTo n := (Nat.mul_pow 5 2 n).symm

namespace Binary64

def one : Nat := 1023 * leadingBit

theorem halfEvenLe {num den k : Nat} (positive : 0 < den) (le : num ≤ k * den) :
    halfEven num den ≤ k := by
  have whole : num / den ≤ k := Nat.div_le_of_le_mul (by rwa [Nat.mul_comm])
  simp only [halfEven]
  rcases Nat.lt_or_ge (num / den) k with below | top
  · split <;> try split
    all_goals omega
  · have divides : num = k * den := by
      have := Nat.mul_le_of_le_div den k num top
      omega
    have none : compare (2 * (num % den)) den = .lt := by
      rw [divides, Nat.mul_mod_left, Nat.compare_eq_lt]
      omega
    simpa only [none] using whole

theorem shareFits {num den : Nat} (some : 0 < num) (le : num ≤ den) :
    ∃ shift : Nat, place num den = -(shift : Int) ∧ 52 ≤ shift ∧ shift ≤ 1074 ∧
      num * twoTo shift ≤ 2 * leadingBit * den := by
  have logs : num.log2 ≤ den.log2 := by
    rw [Nat.log2_eq_log_two, Nat.log2_eq_log_two]
    exact Nat.log_mono_right le
  obtain ⟨g, gap⟩ := Nat.exists_eq_add_of_le logs
  have guess : (num.log2 : Int) - den.log2 = -(g : Int) := by omega
  have exponents : (-(g : Int)).toNat = 0 ∧ (-(-(g : Int))).toNat = g := by omega
  have unit : twoTo 0 = 1 := rfl
  have upper : num * twoTo g < 2 * den := by
    have top : num < twoTo (num.log2 + 1) := Nat.lt_log2_self
    have bottom : twoTo den.log2 ≤ den := Nat.log2_self_le (by omega)
    calc num * twoTo g < twoTo (num.log2 + 1) * twoTo g := Nat.mul_lt_mul_of_pos_right top (twoToPos g)
      _ = 2 * twoTo den.log2 := by rw [← twoToAdd, gap, ← twoToSucc]; congr 1; omega
      _ ≤ 2 * den := Nat.mul_le_mul_left 2 bottom
  obtain ⟨f, floor, under⟩ : ∃ f : Nat,
      (if den * twoTo (-(g : Int)).toNat ≤ num * twoTo (-(-(g : Int))).toNat then -(g : Int)
        else -(g : Int) - 1) = -(f : Int) ∧ num * twoTo f ≤ 2 * den := by
    rw [exponents.1, exponents.2, unit, Nat.mul_one]
    split
    · exact ⟨g, rfl, Nat.le_of_lt upper⟩
    · rename_i missed
      refine ⟨g + 1, by omega, ?_⟩
      rw [twoToSucc, Nat.mul_left_comm]
      omega
  refine ⟨min (52 + f) 1074, ?_, by omega, by omega, ?_⟩
  · simp only [place, guess]
    rw [floor]
    omega
  · have leading : twoTo 52 = leadingBit := by decide
    calc num * twoTo (min (52 + f) 1074) ≤ num * twoTo (52 + f) :=
          Nat.mul_le_mul_left num (twoToMono (by omega))
      _ = leadingBit * (num * twoTo f) := by rw [twoToAdd, leading]; ring
      _ ≤ leadingBit * (2 * den) := Nat.mul_le_mul_left leadingBit under
      _ = 2 * leadingBit * den := by ring

theorem shareLeOne {num den : Nat} (le : num ≤ den) : nearest num den ≤ one := by
  unfold nearest
  split
  · exact Nat.zero_le _
  rename_i some
  have positive : 0 < den := by omega
  obtain ⟨shift, placed, atLeast, atMost, fits⟩ := shareFits (Nat.pos_of_ne_zero some) le
  have exponents : (-(-(shift : Int))).toNat = shift ∧ (-(shift : Int)).toNat = 0 := by omega
  have offset : (-(shift : Int) + 1074).toNat = 1074 - shift := by omega
  have unit : den * twoTo 0 = den := Nat.mul_one den
  simp only [placed, exponents.1, exponents.2, unit, offset]
  refine Nat.le_trans (Nat.min_le_left _ _) ?_
  rcases Nat.lt_or_ge 52 shift with small | largest
  · have digits := halfEvenLe positive fits
    have high := Nat.mul_le_mul_right leadingBit (show 1074 - shift ≤ 1021 by omega)
    simp only [one]
    omega
  · obtain rfl : shift = 52 := by omega
    have leading : twoTo 52 = leadingBit := by decide
    have digits : halfEven (num * twoTo 52) den ≤ leadingBit := by
      refine halfEvenLe positive ?_
      rw [leading, Nat.mul_comm]
      exact Nat.mul_le_mul_left leadingBit le
    simp only [one]
    omega

theorem significandOne {m : Nat} : significand m < 2 * leadingBit := by
  unfold significand
  have below := Nat.mod_lt m (show 0 < leadingBit by decide)
  split <;> omega

theorem significandPos {m : Nat} (some : m ≠ 0) : 0 < significand m := by
  have leading : 0 < leadingBit := by decide
  unfold significand
  split <;> omega

theorem exponentOne {m : Nat} (le : m ≤ one) : exponent m ≤ -52 := by
  have leading : 0 < leadingBit := by decide
  have high : m / leadingBit ≤ 1023 := (Nat.div_le_iff_le_mul leading).mpr (by simp only [one] at le; omega)
  unfold exponent
  split <;> omega

end Binary64

namespace Numeral
open Binary64 (one significand leadingBit significandOne significandPos exponentOne)

structure Modest (d : Nat) (e : Int) : Prop where
  positive : 0 < d
  low : d * tenTo e.toNat ≤ 2 * tenTo (-e).toNat

theorem scaledLe {a n : Nat} {i j : Int} : compareScaled a i n j ≠ .gt ↔
    a * tenTo i.toNat * twoTo (-j).toNat ≤ n * twoTo j.toNat * tenTo (-i).toNat := by
  rw [compareScaled, Nat.compare_ne_gt]

theorem scaledZero {n : Nat} (some : 0 < n) (i j : Int) : compareScaled 0 i n j = .lt := by
  rw [compareScaled, Nat.compare_eq_lt, Nat.zero_mul, Nat.zero_mul]
  exact Nat.mul_pos (Nat.mul_pos some (twoToPos _)) (tenToPos _)

theorem roundsModest {m d : Nat} {g : Int} (some : m ≠ 0) (le : m ≤ one)
    (rounds : roundsTo m d g = true) : Modest d g := by
  simp only [roundsTo, Bool.and_eq_true, Bool.or_eq_true, decide_eq_true_eq] at rounds
  obtain ⟨low, high⟩ := rounds
  have digits := significandPos some
  constructor
  · refine Nat.pos_of_ne_zero ?_
    rintro rfl
    rw [scaledZero (by split <;> omega)] at low
    simp at low
  · have below := scaledLe.mp (show compareScaled d g (4 * significand m + 2)
      (Binary64.exponent m - 2) ≠ .gt by rcases high with h | h <;> simp [h])
    have place := exponentOne le
    have none : (Binary64.exponent m - 2).toNat = 0 := by omega
    rw [none, show twoTo 0 = 1 from rfl, Nat.mul_one] at below
    have most : 4 * significand m + 2 ≤ 2 * twoTo 54 := by
      have := @significandOne m
      have leading : twoTo 54 = 4 * leadingBit := by decide
      omega
    refine Nat.le_of_mul_le_mul_right ?_ (twoToPos 54)
    calc d * tenTo g.toNat * twoTo 54
        ≤ d * tenTo g.toNat * twoTo (-(Binary64.exponent m - 2)).toNat :=
          Nat.mul_le_mul_left _ (twoToMono (by omega))
      _ ≤ (4 * significand m + 2) * tenTo (-g).toNat := below
      _ ≤ 2 * twoTo 54 * tenTo (-g).toNat := Nat.mul_le_mul_right _ most
      _ = 2 * tenTo (-g).toNat * twoTo 54 := by ring

theorem exactModest {m : Nat} (some : m ≠ 0) (le : m ≤ one) :
    Modest (significand m * twoTo (Binary64.exponent m).toNat * fiveTo (-Binary64.exponent m).toNat)
      (-((-Binary64.exponent m).toNat : Int)) := by
  have place := exponentOne le
  have none : (Binary64.exponent m).toNat = 0 := by omega
  have exponents : (-((-Binary64.exponent m).toNat : Int)).toNat = 0 ∧
      (-(-((-Binary64.exponent m).toNat : Int))).toNat = (-Binary64.exponent m).toNat := by omega
  rw [none, show twoTo 0 = 1 from rfl, Nat.mul_one]
  constructor
  · exact Nat.mul_pos (significandPos some) (Nat.pow_pos (by decide))
  · rw [exponents.1, exponents.2, show tenTo 0 = 1 from rfl, Nat.mul_one, ← fiveTwo]
    have digits : significand m ≤ 2 * twoTo (-Binary64.exponent m).toNat := by
      have leading : twoTo 52 = leadingBit := by decide
      have := twoToMono (show 52 ≤ (-Binary64.exponent m).toNat by omega)
      have := @significandOne m
      omega
    calc significand m * fiveTo (-Binary64.exponent m).toNat
        ≤ 2 * twoTo (-Binary64.exponent m).toNat * fiveTo (-Binary64.exponent m).toNat :=
          Nat.mul_le_mul_right _ digits
      _ = 2 * (fiveTo (-Binary64.exponent m).toNat * twoTo (-Binary64.exponent m).toNat) := by ring

theorem gridRounds {m d : Nat} {g : Int} (found : onGrid? m g = some d) : roundsTo m d g = true := by
  unfold onGrid? at found
  simp only at found
  split at found
  · split at found <;> cases found <;> (try split) <;> assumption
  · cases found; assumption
  · cases found; assumption
  · cases found

theorem stripModest {d : Nat} {e : Int} (modest : Modest d e) :
    Modest (stripZeros d e).1 (stripZeros d e).2 := by
  fun_induction stripZeros d e with
  | case1 d e more ih =>
    refine ih ⟨by omega, ?_⟩
    have low := modest.low
    obtain ⟨k, rfl⟩ : ∃ k, d = k * 10 := ⟨d / 10, by omega⟩
    rw [Nat.mul_div_cancel k (by decide)]
    rcases Int.lt_or_le e 0 with negative | whole
    · have exponents : e.toNat = 0 ∧ (e + 1).toNat = 0 ∧ (-e).toNat = (-(e + 1)).toNat + 1 := by omega
      rw [exponents.1, exponents.2.2, tenToSucc] at low
      rw [exponents.2.1]
      simp only [show tenTo 0 = 1 from rfl] at *
      omega
    · have exponents : (e + 1).toNat = e.toNat + 1 ∧ (-e).toNat = 0 ∧ (-(e + 1)).toNat = 0 := by omega
      rw [exponents.2.1] at low
      rw [exponents.1, exponents.2.2, tenToSucc, ← Nat.mul_assoc]
      exact low
  | case2 => exact modest

theorem shortestModest {m : Nat} (some : m ≠ 0) (le : m ≤ one) :
    Modest (shortest m).1 (shortest m).2 := by
  unfold shortest
  refine stripModest ?_
  cases found : (List.range 17).findSome? fun i =>
      (onGrid? m (scaleOf m - (i + 1 : Nat))).map (·, scaleOf m - (i + 1 : Nat)) with
  | none => exact exactModest some le
  | some r =>
    obtain ⟨i, _, near⟩ := List.exists_of_findSome?_eq_some found
    obtain ⟨d, grid, rfl⟩ := Option.map_eq_some_iff.mp near
    exact roundsModest some le (gridRounds grid)

theorem leadingWithin {n : Nat} (fits : n ≤ Bounds.instant) : leading n = (n, 0) := by
  rw [leading, if_pos fits]

theorem gatherTaken (held taken : Nat) (ds : List (Fin 10)) : taken ≤ (gather held taken ds).2 := by
  induction ds generalizing held taken with
  | nil => exact Nat.le_refl _
  | cons d ds ih =>
    unfold gather
    split
    · exact Nat.le_of_succ_le (ih _ _)
    · exact Nat.le_refl _

theorem gatherSome {held : Nat} (fits : held ≤ 1000) (d : Fin 10) (ds : List (Fin 10)) :
    0 < (gather held 0 (d :: ds)).2 := by
  have room : held * 10 + d.val ≤ Bounds.instant := by
    simp only [Bounds.instant]
    omega
  rw [gather, if_pos room]
  exact gatherTaken _ 1 ds

theorem shrinksToBinary {n : Numeral} (fits : n.whole ≤ 1000)
    (falls : (n.exponent.getD 0) < (gather n.whole 0 n.fraction).2) : ∃ y, n.toBinary? = some y := by
  have whole := leadingWithin (show n.whole ≤ Bounds.instant by simp only [Bounds.instant]; omega)
  have negative : ¬ 0 ≤ ((0 : Nat) : Int) - ((gather n.whole 0 n.fraction).2 : Int) +
      n.exponent.getD 0 := by omega
  simp only [toBinary?, whole, scale, if_neg negative, Option.map_some]
  exact ⟨_, rfl⟩

theorem paddedSome {width : Nat} (wide : 0 < width) (n : Nat) :
    ∃ digit rest, padded width n = digit :: rest := by
  cases width with
  | zero => omega
  | succ width =>
    refine List.exists_cons_of_ne_nil fun none => ?_
    exact List.append_ne_nil_of_right_ne_nil (padded width (n / 10)) (List.cons_ne_nil _ _) none

theorem leadingPower {d : Nat} (some : 0 < d) :
    tenTo ((Nat.toDigits 10 d).length - 1) ≤ d ∧ d < tenTo ((Nat.toDigits 10 d).length - 1 + 1) := by
  have long : 0 < (Nat.toDigits 10 d).length := Nat.length_toDigits_pos
  constructor
  · rcases Nat.eq_zero_or_pos ((Nat.toDigits 10 d).length - 1) with one | more
    · rw [one]
      exact some
    · by_contra short
      have := (Nat.length_toDigits_le_iff (by decide) more).mpr (Nat.not_le.mp short)
      omega
  · rw [Nat.sub_add_cancel long]
    exact (Nat.length_toDigits_le_iff (by decide) long).mp (Nat.le_refl _)

theorem leadModest {d : Nat} {e : Int} (modest : Modest d e) :
    e + ((Nat.toDigits 10 d).length - 1 : Nat) ≤ 0 := by
  obtain ⟨reached, _⟩ := leadingPower modest.positive
  have low := modest.low
  generalize (Nat.toDigits 10 d).length - 1 = behind at *
  by_contra high
  -- Otherwise the leading digit alone spells ten at least.
  have tens : (-e).toNat + 1 ≤ behind + e.toNat := by omega
  have spelled : tenTo behind * tenTo e.toNat ≤ 2 * tenTo (-e).toNat :=
    Nat.le_trans (Nat.mul_le_mul_right _ reached) low
  have more := tenToMono tens
  rw [tenToSucc, tenToAdd] at more
  have := tenToPos (-e).toNat
  omega

theorem layoutReads (negative : Bool) {d : Nat} {e : Int} (modest : Modest d e) :
    ∃ y, (layout negative d e).toBinary? = some y := by
  have lead := leadModest modest
  have low := modest.low
  simp only [layout]
  split
  · split
    · rename_i whole
      have none : (-e).toNat = 0 := by omega
      rw [none] at low
      have fits : d * tenTo e.toNat ≤ 1000 := Nat.le_trans low (by decide)
      exact shrinksToBinary fits (Int.ofNat_lt.mpr (gatherSome fits _ _))
    · rename_i point
      have none : e.toNat = 0 := by omega
      rw [none, show tenTo 0 = 1 from rfl, Nat.mul_one] at low
      have fits : d / tenTo (-e).toNat ≤ 1000 :=
        Nat.le_trans (Nat.div_le_of_le_mul (by rwa [Nat.mul_comm])) (show 2 ≤ 1000 by decide)
      obtain ⟨digit, rest, some⟩ := paddedSome (show 0 < (-e).toNat by omega) d
      refine shrinksToBinary fits ?_
      rw [some]
      exact Int.ofNat_lt.mpr (gatherSome fits _ _)
  · rename_i outside
    obtain ⟨_, below⟩ := leadingPower modest.positive
    have fits : d / tenTo ((Nat.toDigits 10 d).length - 1) ≤ 1000 := by
      rw [tenToSucc] at below
      have := Nat.div_lt_of_lt_mul (by rwa [Nat.mul_comm] at below)
      omega
    refine shrinksToBinary fits ?_
    simp only [Option.getD_some]
    omega

end Numeral

theorem Binary64.rereadSome {x : Binary64} (le : x.magnitude ≤ one) : ∃ y, x.reread = some y := by
  have finite : x.isFinite = true := decide_eq_true (Nat.lt_of_le_of_lt le (by decide))
  rw [reread, if_pos finite]
  unfold Numeral.ofBinary
  split
  · exact Numeral.shrinksToBinary (Nat.zero_le _) (Int.ofNat_lt.mpr (Numeral.gatherSome (Nat.zero_le _) _ _))
  · rename_i some
    exact Numeral.layoutReads x.negative (Numeral.shortestModest some le)

theorem View.unsatisfiedReread (v : View) : ∃ p, v.unsatisfied.reread = some p := by
  refine Binary64.rereadSome ?_
  unfold unsatisfied
  split
  · exact Nat.zero_le _
  · exact Binary64.shareLeOne (Nat.sub_le _ _)

end Fleet
