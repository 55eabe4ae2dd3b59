import Mathlib.Algebra.Order.Field.Power
import Mathlib.Algebra.Order.Field.Rat
import Mathlib.Tactic.FieldSimp
import Mathlib.Tactic.Ring
import Quire.Proofs.Numbers.Rounding

set_option autoImplicit false

/-!
The digits of a number are the fewest that lie in its rounding interval.
-/

namespace Quire

def Decimal.value (decimal : Decimal) : ℚ :=
  decimal.digits * 10 ^ decimal.exponent

def Decimal.width (decimal : Decimal) : Nat :=
  (Nat.toDigits 10 decimal.digits).length

namespace RoundingInterval

variable {interval : RoundingInterval}

def Contains (interval : RoundingInterval) (exact : ℚ) : Prop :=
  if interval.closed then interval.lower ≤ exact ∧ exact ≤ interval.upper
  else interval.lower < exact ∧ exact < interval.upper

private theorem contains_iff {num den : Nat} (positive : 0 < den) :
    interval.contains num den = true ↔ interval.Contains (num / den) := by
  have den_pos : (0 : ℚ) < den := Nat.cast_pos.mpr positive
  unfold contains Contains
  simp only [le_div_iff₀ den_pos, div_le_iff₀ den_pos, lt_div_iff₀ den_pos, div_lt_iff₀ den_pos]
  split <;> simp only [Bool.and_eq_true, decide_eq_true_eq] <;> norm_cast

theorem Contains.bounds {exact : ℚ} (inside : interval.Contains exact) :
    interval.lower ≤ exact ∧ exact ≤ interval.upper := by
  unfold Contains at inside
  split at inside
  · exact inside
  · exact ⟨inside.1.le, inside.2.le⟩

theorem Contains.between {low exact high : ℚ} (first : interval.Contains low)
    (last : interval.Contains high) (above : low ≤ exact) (below : exact ≤ high) :
    interval.Contains exact := by
  unfold Contains at *
  split
  · rename_i closed
    rw [if_pos closed] at first last
    exact ⟨first.1.trans above, below.trans last.2⟩
  · rename_i opened
    rw [if_neg opened] at first last
    exact ⟨first.1.trans_le above, below.trans_lt last.2⟩

structure Proper (interval : RoundingInterval) : Prop where
  positive : 0 < interval.lower
  below : interval.lower < interval.middle
  above : interval.middle < interval.upper

theorem Proper.contains_middle (proper : interval.Proper) : interval.Contains interval.middle := by
  have below : (interval.lower : ℚ) < interval.middle := Nat.cast_lt.mpr proper.below
  have above : (interval.middle : ℚ) < interval.upper := Nat.cast_lt.mpr proper.above
  unfold Contains
  split
  · exact ⟨below.le, above.le⟩
  · exact ⟨below, above⟩

theorem Proper.one_le_of_contains (proper : interval.Proper) {exact : ℚ}
    (inside : interval.Contains exact) : 1 ≤ exact := by
  have lower : (1 : ℚ) ≤ interval.lower := Nat.one_le_cast.mpr proper.positive
  exact lower.trans inside.bounds.1

def step (exponent : Int) : ℚ :=
  10 ^ exponent * quartersPerOne

private theorem quartersPerOne_pos : 0 < quartersPerOne :=
  Nat.mul_pos (by decide) Number.unitsPerOne_pos

private theorem step_pos (exponent : Int) : 0 < step exponent :=
  mul_pos (zpow_pos (by norm_num) exponent) (Nat.cast_pos.mpr quartersPerOne_pos)

private theorem gridStep_pos (exponent : Int) : 0 < (gridStep exponent).1 ∧ 0 < (gridStep exponent).2 := by
  unfold gridStep
  split
  · exact ⟨Nat.mul_pos (Nat.pow_pos (by decide)) quartersPerOne_pos, Nat.one_pos⟩
  · exact ⟨quartersPerOne_pos, Nat.pow_pos (by decide)⟩

private theorem gridStep_eq (exponent : Int) :
    ((gridStep exponent).1 : ℚ) / (gridStep exponent).2 = step exponent := by
  unfold gridStep step
  generalize quartersPerOne = quarters
  split
  · rename_i nonneg
    obtain ⟨power, rfl⟩ := Int.eq_ofNat_of_zero_le nonneg
    simp
  · rename_i negative
    obtain ⟨power, rfl⟩ : ∃ power : Nat, exponent = -power := ⟨(-exponent).toNat, by omega⟩
    simp [div_eq_inv_mul]

def Fits (interval : RoundingInterval) (exponent : Int) (digits : Nat) : Prop :=
  interval.Contains (digits * step exponent)

private theorem Proper.pos_of_fits (proper : interval.Proper) {exponent : Int} {digits : Nat}
    (fits : interval.Fits exponent digits) : 0 < digits := by
  have least := proper.one_le_of_contains fits
  rcases Nat.eq_zero_or_pos digits with rfl | positive
  · rw [Nat.cast_zero, zero_mul] at least
    exact absurd least (by norm_num)
  · exact positive

private theorem fits_iff {exponent : Int} {digits : Nat} :
    interval.contains (digits * (gridStep exponent).1) (gridStep exponent).2 = true ↔
      interval.Fits exponent digits := by
  rw [contains_iff (gridStep_pos exponent).2, Nat.cast_mul, mul_div_assoc, gridStep_eq]
  rfl

theorem fits_iff_contains {decimal : Decimal} :
    interval.Fits decimal.exponent decimal.digits ↔
      interval.Contains (decimal.value * quartersPerOne) := by
  rw [Fits, step, Decimal.value, mul_assoc]

theorem Fits.contains_units {exponent : Int} {digits : Nat} (fits : interval.Fits exponent digits)
    (whole : 0 ≤ exponent) :
    interval.contains (4 * (digits * Nat.pow 10 exponent.toNat * Number.unitsPerOne)) 1 = true := by
  have inside := fits_iff.mpr fits
  rw [gridStep, if_pos whole] at inside
  have quarters : 4 * (digits * Nat.pow 10 exponent.toNat * Number.unitsPerOne) =
      digits * (Nat.pow 10 exponent.toNat * quartersPerOne) := by
    rw [quartersPerOne, Nat.mul_assoc digits, Nat.mul_left_comm 4 digits, Nat.mul_left_comm 4]
  rw [quarters]
  exact inside

def floor (interval : RoundingInterval) (exponent : Int) : Nat :=
  interval.middle * (gridStep exponent).2 / (gridStep exponent).1

private theorem floor_le (interval : RoundingInterval) (exponent : Int) :
    interval.floor exponent * step exponent ≤ interval.middle := by
  obtain ⟨num_pos, den_pos⟩ := gridStep_pos exponent
  have le := Nat.div_mul_le_self (interval.middle * (gridStep exponent).2) (gridStep exponent).1
  rw [← gridStep_eq, ← mul_div_assoc, div_le_iff₀ (Nat.cast_pos.mpr den_pos)]
  exact_mod_cast le

private theorem lt_floor_succ (interval : RoundingInterval) (exponent : Int) :
    interval.middle < (interval.floor exponent + 1 : Nat) * step exponent := by
  obtain ⟨num_pos, den_pos⟩ := gridStep_pos exponent
  have lt := Nat.lt_mul_div_succ (interval.middle * (gridStep exponent).2) num_pos
  rw [Nat.mul_comm (gridStep exponent).1] at lt
  rw [← gridStep_eq, ← mul_div_assoc, lt_div_iff₀ (Nat.cast_pos.mpr den_pos)]
  exact_mod_cast lt

private theorem nearest?_cases (interval : RoundingInterval) (exponent : Int) :
    (∃ digits, interval.nearest? exponent = some ⟨digits, exponent⟩ ∧
      interval.Fits exponent digits) ∨
    interval.nearest? exponent = none ∧ ¬ interval.Fits exponent (interval.floor exponent) ∧
      ¬ interval.Fits exponent (interval.floor exponent + 1) := by
  simp only [← fits_iff]
  unfold nearest? floor
  simp only
  split
  · rename_i first
    exact .inl ⟨_, rfl, (Bool.and_eq_true_iff.mp first).1⟩
  · rename_i first
    split
    · rename_i second
      exact .inl ⟨_, rfl, second⟩
    · rename_i second
      refine .inr ⟨rfl, fun fits => first ?_, second⟩
      simp [fits, second]

private theorem Proper.not_fits_of_none (proper : interval.Proper) {exponent : Int}
    (none : interval.nearest? exponent = none) (digits : Nat) :
    ¬ interval.Fits exponent digits := by
  rcases interval.nearest?_cases exponent with ⟨found, result, -⟩ | ⟨-, below, above⟩
  · rw [result] at none
    cases none
  · intro fits
    have step := (step_pos exponent).le
    rcases Nat.lt_or_ge (interval.floor exponent) digits with more | less
    · apply above
      refine proper.contains_middle.between fits (interval.lt_floor_succ exponent).le ?_
      exact mul_le_mul_of_nonneg_right (Nat.cast_le.mpr more) step
    · apply below
      refine Contains.between fits proper.contains_middle ?_ (interval.floor_le exponent)
      exact mul_le_mul_of_nonneg_right (Nat.cast_le.mpr less) step

/-- The search stops at the first grid with a point in the interval. -/
theorem firstFit_spec {count : Nat} {start last : Int}
    (reached : start - count < last) (started : last ≤ start)
    (found : interval.nearest? last ≠ none) :
    ∃ exponent ≤ start, interval.nearest? exponent = some (interval.firstFit count start) ∧
      ∀ coarser, exponent < coarser → coarser ≤ start → interval.nearest? coarser = none := by
  induction count generalizing start with
  | zero => omega
  | succ count ih =>
      rw [firstFit]
      cases here : interval.nearest? start with
      | some decimal => exact ⟨start, le_rfl, here, by omega⟩
      | none =>
          have later : last ≠ start := by
            rintro rfl
            exact found here
          have further : start - 1 - count < last := by omega
          obtain ⟨exponent, bound, result, before⟩ := ih further (by omega)
          refine ⟨exponent, by omega, result, fun coarser above below => ?_⟩
          rcases lt_or_eq_of_le below with less | rfl
          · exact before coarser above (by omega)
          · exact here

private theorem step_natCast (power : Nat) : step power = (10 ^ power * quartersPerOne : Nat) := by
  rw [step, zpow_natCast]
  push_cast
  rfl

private theorem step_le_step {finer coarser : Int} (le : finer ≤ coarser) : step finer ≤ step coarser :=
  mul_le_mul_of_nonneg_right (zpow_le_zpow_right₀ (by norm_num) le) (Nat.cast_nonneg _)

end RoundingInterval

namespace Number

open RoundingInterval

variable {exponent : Fin 2047} {fraction : Fin (Nat.pow 2 52)}

theorem spacing_le_units (nonzero : units exponent fraction ≠ 0) :
    spacing exponent ≤ units exponent fraction := by
  have significant : significand exponent fraction ≠ 0 := by
    intro zero
    exact nonzero (by rw [units, zero, Nat.zero_mul])
  exact Nat.le_mul_of_pos_left _ (Nat.pos_of_ne_zero significant)

theorem proper_ofFinite (nonzero : units exponent fraction ≠ 0) :
    (ofFinite exponent fraction).Proper := by
  have space := spacing_pos exponent
  have least := spacing_le_units nonzero
  have gap_pos := gapBelow_pos exponent fraction
  have gap_le := gapBelow_le exponent fraction
  refine ⟨?_, ?_, ?_⟩
  · change 0 < 4 * units exponent fraction - gapBelow exponent fraction
    omega
  · change 4 * units exponent fraction - gapBelow exponent fraction < 4 * units exponent fraction
    omega
  · change 4 * units exponent fraction < 4 * units exponent fraction + 2 * spacing exponent
    omega

/-- Every number is a point of the grid that has as many places as one has factors of two. -/
theorem fits_finest (nonzero : units exponent fraction ≠ 0) :
    (ofFinite exponent fraction).Fits (-unitPower) (units exponent fraction * 5 ^ unitPower) := by
  have exact : ((units exponent fraction * 5 ^ unitPower : Nat) : ℚ) * step (-unitPower) =
      (ofFinite exponent fraction).middle := by
    have product : (10 : ℚ) ^ unitPower = 2 ^ unitPower * 5 ^ unitPower := by
      rw [← mul_pow]
      norm_num
    change _ = ((4 * units exponent fraction : Nat) : ℚ)
    rw [step, quartersPerOne, unitsPerOne_eq, zpow_neg, zpow_natCast, product]
    push_cast
    field_simp
  unfold Fits
  rw [exact]
  exact (proper_ofFinite nonzero).contains_middle

private theorem upper_lt_step (exponent : Fin 2047) (fraction : Fin (Nat.pow 2 52)) :
    ((ofFinite exponent fraction).upper : ℚ) < step coarsest := by
  have upper : (ofFinite exponent fraction).upper ≤ 2 ^ 55 * spacing exponent := by
    have bound := units_add_spacing_le exponent fraction
    change 4 * units exponent fraction + 2 * spacing exponent ≤ _
    omega
  have space : spacing exponent ≤ 2 ^ 2045 := by
    rw [spacing_eq]
    gcongr
    · decide
    · omega
  have numeric : 2 ^ 55 * 2 ^ 2045 < 10 ^ 309 * quartersPerOne := by decide +kernel
  have total := (upper.trans (Nat.mul_le_mul_left _ space)).trans_lt numeric
  have grid : step coarsest = (10 ^ 309 * quartersPerOne : Nat) := step_natCast 309
  rw [grid]
  exact Nat.cast_lt.mpr total

private theorem not_fits_of_coarsest_le (nonzero : units exponent fraction ≠ 0) {coarser : Int}
    (above : coarsest ≤ coarser) (digits : Nat) :
    ¬ (ofFinite exponent fraction).Fits coarser digits := by
  intro fits
  have positive := (proper_ofFinite nonzero).pos_of_fits fits
  have past : step coarsest ≤ digits * step coarser :=
    (step_le_step above).trans
      (le_mul_of_one_le_left (step_pos coarser).le (Nat.one_le_cast.mpr positive))
  exact absurd (past.trans fits.bounds.2) (not_le.mpr (upper_lt_step exponent fraction))

/-- The digits of a number lie in its interval, and no coarser grid has a point there. -/
theorem shortest_spec (nonzero : units exponent fraction ≠ 0) :
    (ofFinite exponent fraction).Fits (shortest exponent fraction).exponent
        (shortest exponent fraction).digits ∧
      ∀ coarser, (shortest exponent fraction).exponent < coarser →
        ∀ digits, ¬ (ofFinite exponent fraction).Fits coarser digits := by
  have proper := proper_ofFinite nonzero
  have found : (ofFinite exponent fraction).nearest? (-unitPower) ≠ none := by
    intro none
    exact proper.not_fits_of_none none _ (fits_finest nonzero)
  have search : shortest exponent fraction =
      (ofFinite exponent fraction).firstFit 1385 coarsest := if_neg nonzero
  have reached : coarsest - (1385 : Nat) < -unitPower := by decide
  obtain ⟨power, -, result, before⟩ := firstFit_spec reached (by decide) found
  rw [← search] at result
  rcases (ofFinite exponent fraction).nearest?_cases power with ⟨digits, same, fits⟩ | ⟨none, -⟩
  · have decimal : shortest exponent fraction = ⟨digits, power⟩ :=
      Option.some.inj (result.symm.trans same)
    rw [decimal]
    refine ⟨fits, fun coarser above => ?_⟩
    rcases le_total coarser coarsest with tried | beyond
    · exact proper.not_fits_of_none (before coarser above tried)
    · exact not_fits_of_coarsest_le nonzero beyond
  · rw [result] at none
    cases none

private theorem pow_pred_length_le {digits : Nat} (positive : 0 < digits) :
    10 ^ ((Nat.toDigits 10 digits).length - 1) ≤ digits := by
  by_contra less
  have least : 0 < (Nat.toDigits 10 digits).length := Nat.length_toDigits_pos
  rcases Nat.eq_zero_or_pos ((Nat.toDigits 10 digits).length - 1) with zero | more
  · rw [zero] at less
    omega
  · have shorter := (Nat.length_toDigits_le_iff (by decide) more).mpr (Nat.not_le.mp less)
    omega

private theorem lt_pow_length (digits : Nat) : digits < 10 ^ (Nat.toDigits 10 digits).length :=
  (Nat.length_toDigits_le_iff (by decide) Nat.length_toDigits_pos).mp le_rfl

private theorem pow_mul_step (power : Nat) (exponent : Int) :
    ((10 ^ power : Nat) : ℚ) * step exponent = step (exponent + power) := by
  rw [step, step, zpow_add₀ (by norm_num), zpow_natCast]
  push_cast
  ring

private theorem mul_step_le (digits : Nat) (power : Int) :
    digits * step power ≤ step (power + (Nat.toDigits 10 digits).length) := by
  rw [← pow_mul_step]
  exact mul_le_mul_of_nonneg_right (Nat.cast_le.mpr (lt_pow_length digits).le) (step_pos power).le

private theorem step_le_mul {digits : Nat} (positive : 0 < digits) (power : Int) :
    step (power + ((Nat.toDigits 10 digits).length - 1 : Nat)) ≤ digits * step power := by
  rw [← pow_mul_step]
  exact mul_le_mul_of_nonneg_right (Nat.cast_le.mpr (pow_pred_length_le positive))
    (step_pos power).le

/-- No decimal in the interval of a number has fewer digits than the one that is chosen. -/
theorem width_shortest_le (nonzero : units exponent fraction ≠ 0) {decimal : Decimal}
    (fits : (ofFinite exponent fraction).Fits decimal.exponent decimal.digits) :
    (shortest exponent fraction).width ≤ decimal.width := by
  have spec := shortest_spec nonzero
  generalize shortest exponent fraction = chosen at spec ⊢
  obtain ⟨inside, coarsest⟩ := spec
  have positive := (proper_ofFinite nonzero).pos_of_fits inside
  by_contra fewer
  have some : 0 < decimal.width := Nat.length_toDigits_pos
  have finer : decimal.exponent ≤ chosen.exponent :=
    not_lt.mp fun coarser => coarsest _ coarser _ fits
  have order : decimal.exponent + decimal.width ≤ chosen.exponent + (chosen.width - 1 : Nat) := by
    omega
  have below := (mul_step_le decimal.digits decimal.exponent).trans (step_le_step order)
  refine coarsest (chosen.exponent + (chosen.width - 1 : Nat)) (by omega) 1 ?_
  rw [Fits, Nat.cast_one, one_mul]
  exact fits.between inside below (step_le_mul positive chosen.exponent)

private theorem step_lt_one : step (-331) < 1 := by
  have numeric : quartersPerOne < 10 ^ 331 := by decide +kernel
  have inverse : ∀ power : Nat, (10 : ℚ) ^ (-power : Int) = ((10 ^ power : Nat) : ℚ)⁻¹ := by
    intro power
    rw [zpow_neg, zpow_natCast]
    push_cast
    rfl
  change (10 : ℚ) ^ (-(331 : Nat) : Int) * (quartersPerOne : ℚ) < 1
  rw [inverse, inv_mul_lt_iff₀ (Nat.cast_pos.mpr (by positivity)), mul_one]
  exact Nat.cast_lt.mpr numeric

private theorem magnitude_of_fits (nonzero : units exponent fraction ≠ 0) {power : Int} {digits : Nat}
    (fits : (ofFinite exponent fraction).Fits power digits) :
    -330 ≤ power + (Nat.toDigits 10 digits).length ∧
      power + (Nat.toDigits 10 digits).length ≤ 310 := by
  have proper := proper_ofFinite nonzero
  have positive := proper.pos_of_fits fits
  have least := proper.one_le_of_contains fits
  have most := fits.bounds.2.trans_lt (upper_lt_step exponent fraction)
  constructor
  · by_contra tiny
    have less := mul_step_le digits power
    have small := step_le_step (show power + (Nat.toDigits 10 digits).length ≤ -331 by omega)
    exact absurd step_lt_one (not_lt.mpr ((least.trans less).trans small))
  · by_contra huge
    have more := step_le_mul positive power
    have large : coarsest ≤ power + ((Nat.toDigits 10 digits).length - 1 : Nat) := by
      unfold coarsest
      omega
    exact absurd most (not_lt.mpr ((step_le_step large).trans more))

theorem ofDecimal_of_fits (nonzero : units exponent fraction ≠ 0) {power : Int} {digits : Nat}
    (fits : (ofFinite exponent fraction).Fits power digits) (negative : Bool) :
    ofDecimal negative digits power = .finite negative exponent fraction := by
  have some : digits ≠ 0 := ((proper_ofFinite nonzero).pos_of_fits fits).ne'
  obtain ⟨notTiny, notHuge⟩ := magnitude_of_fits nonzero fits
  unfold ofDecimal
  simp only [if_neg some, if_neg (not_lt.mpr notTiny), if_neg (not_lt.mpr notHuge)]
  split
  · rename_i whole
    exact ofRatio_of_contains Nat.one_pos (fits.contains_units whole)
  · rename_i broken
    have inside := fits_iff.mpr fits
    rw [gridStep, if_neg broken] at inside
    refine ofRatio_of_contains (Nat.pow_pos (by decide)) ?_
    rw [Nat.mul_left_comm 4 digits]
    exact inside

end Number
end Quire
