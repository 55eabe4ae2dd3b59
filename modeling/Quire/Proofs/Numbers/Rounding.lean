import Mathlib.Algebra.Order.Ring.Nat
import Mathlib.Tactic.Positivity
import Quire.Number.Decimal
import Quire.Number.Rounding

set_option autoImplicit false

/-!
Rounding intervals: whatever lies in the interval of a number is read as that number.
-/

namespace Quire

private theorem nearestEven_eq {num den whole : Nat} (positive : 0 < den)
    (low : 2 * (whole * den) ≤ 2 * num + den) (high : 2 * num ≤ 2 * (whole * den) + den)
    (tie : whole % 2 = 0 ∨ 2 * (whole * den) < 2 * num + den ∧ 2 * num < 2 * (whole * den) + den) :
    nearestEven num den = whole := by
  have parts : num / den * den + num % den = num := Nat.div_add_mod' num den
  have rest : num % den < den := Nat.mod_lt num positive
  have atMost : num / den ≤ whole := by
    by_contra larger
    have step : (whole + 1) * den ≤ num / den * den := Nat.mul_le_mul_right den (by omega)
    rw [Nat.succ_mul] at step
    omega
  have atLeast : whole ≤ num / den + 1 := by
    by_contra smaller
    have step : (num / den + 2) * den ≤ whole * den := Nat.mul_le_mul_right den (by omega)
    rw [Nat.add_mul] at step
    omega
  unfold nearestEven
  rcases Nat.lt_or_eq_of_le atMost with less | equal
  · obtain rfl : whole = num / den + 1 := by omega
    have next : (num / den + 1) * den = num / den * den + den := Nat.succ_mul _ _
    simp only
    split
    · omega
    · split <;> omega
  · rw [← equal] at low high tie ⊢
    simp only
    split
    · omega
    · split <;> omega

namespace Number

def unitPower : Nat := 1074

section Fields

variable (exponent : Fin 2047) (fraction : Fin (Nat.pow 2 52))

theorem unitsPerOne_eq : unitsPerOne = 2 ^ unitPower := by
  unfold unitsPerOne unitPower
  generalize 1074 = power
  rfl

theorem unitsPerOne_pos : 0 < unitsPerOne := by
  rw [unitsPerOne_eq]
  exact Nat.two_pow_pos unitPower

theorem spacing_eq : spacing exponent = 2 ^ (exponent.val - 1) := Nat.pow_eq

theorem spacing_pos : 0 < spacing exponent := Nat.pow_pos Nat.two_pos

theorem fraction_lt : fraction.val < 2 ^ 52 := fraction.isLt

theorem significand_of_normal {exponent : Fin 2047} (normal : exponent.val ≠ 0) :
    significand exponent fraction = 2 ^ 52 + fraction.val := if_neg normal

theorem significand_of_subnormal {exponent : Fin 2047} (subnormal : exponent.val = 0) :
    significand exponent fraction = fraction.val := if_pos subnormal

theorem significand_lt : significand exponent fraction < 2 ^ 53 := by
  have bound := fraction_lt fraction
  by_cases subnormal : exponent.val = 0
  · rw [significand_of_subnormal fraction subnormal]
    omega
  · rw [significand_of_normal fraction subnormal]
    omega

private theorem significand_mod_two : significand exponent fraction % 2 = fraction.val % 2 := by
  by_cases subnormal : exponent.val = 0
  · rw [significand_of_subnormal fraction subnormal]
  · rw [significand_of_normal fraction subnormal]
    omega

theorem units_add_spacing_le :
    units exponent fraction + spacing exponent ≤ 2 ^ 53 * spacing exponent := by
  rw [units, ← Nat.succ_mul]
  exact Nat.mul_le_mul_right _ (significand_lt exponent fraction)

theorem spacing_eq_double {exponent : Fin 2047} (large : 1 < exponent.val) :
    spacing exponent = 2 * 2 ^ (exponent.val - 2) := by
  rw [spacing_eq, ← Nat.pow_succ']
  congr 1
  omega

theorem units_of_power {exponent : Fin 2047} {fraction : Fin (Nat.pow 2 52)}
    (zero : fraction.val = 0) (large : 1 < exponent.val) :
    units exponent fraction = 2 ^ 53 * 2 ^ (exponent.val - 2) := by
  rw [units, significand_of_normal fraction (by omega), spacing_eq_double large, zero]
  omega

end Fields

variable {exponent : Fin 2047} {fraction : Fin (Nat.pow 2 52)} {negative : Bool}

theorem ofUnits_units : ofUnits negative (units exponent fraction) = .finite negative exponent fraction := by
  have bound := fraction_lt fraction
  have space := spacing_pos exponent
  by_cases subnormal : exponent.val = 0
  · have count : units exponent fraction = fraction.val := by
      rw [units, significand_of_subnormal fraction subnormal, spacing_eq, subnormal]
      simp
    have small : units exponent fraction < Nat.pow 2 52 := count ▸ fraction.isLt
    unfold ofUnits
    simp only [dif_pos small]
    congr 1
    · exact Fin.ext subnormal.symm
    · exact Fin.ext count
  · have count : units exponent fraction = (2 ^ 52 + fraction.val) * 2 ^ (exponent.val - 1) := by
      rw [units, significand_of_normal fraction subnormal, spacing_eq]
    have least : 2 ^ 52 * 2 ^ (exponent.val - 1) ≤ units exponent fraction := by
      rw [count]
      exact Nat.mul_le_mul_right _ (by omega)
    have most : units exponent fraction < 2 ^ 53 * 2 ^ (exponent.val - 1) := by
      rw [count]
      exact Nat.mul_lt_mul_of_pos_right (by omega) (Nat.two_pow_pos _)
    have large : ¬ units exponent fraction < Nat.pow 2 52 :=
      Nat.not_lt.mpr (Nat.le_trans (Nat.le_mul_of_pos_right _ (Nat.two_pow_pos _)) least)
    have log : (units exponent fraction).log2 - 52 = exponent.val - 1 := by
      have exact : (units exponent fraction).log2 = 52 + (exponent.val - 1) := by
        have nonzero : units exponent fraction ≠ 0 := fun zero => large (zero ▸ Nat.two_pow_pos 52)
        refine (Nat.log2_eq_iff nonzero).mpr ⟨?_, ?_⟩
        · rwa [Nat.pow_add]
        · rwa [Nat.add_right_comm, Nat.pow_add]
      omega
    have field : exponent.val - 1 + 1 = exponent.val := by omega
    have digits : units exponent fraction / Nat.pow 2 (exponent.val - 1) % Nat.pow 2 52 =
        fraction.val := by
      change units exponent fraction / 2 ^ (exponent.val - 1) % 2 ^ 52 = fraction.val
      rw [count, Nat.mul_div_cancel _ (Nat.two_pow_pos _)]
      omega
    unfold ofUnits
    simp only [log, field]
    rw [dif_neg large, dif_pos exponent.isLt]
    congr 1
    exact Fin.ext digits

/-- Rounding keeps 53 significant bits, or all units of a value that has fewer. -/
theorem ofRatio_eq_ofUnits {num den shift whole : Nat} (positive : 0 < den)
    (low : shift = 0 ∨ 2 ^ 52 * 2 ^ shift * den ≤ num * unitsPerOne)
    (high : num * unitsPerOne < 2 ^ 53 * 2 ^ shift * den)
    (nearest : nearestEven (num * unitsPerOne) (den * 2 ^ shift) = whole) :
    ofRatio negative num den = ofUnits negative (whole * 2 ^ shift) := by
  have most : num * unitsPerOne / den < 2 ^ (53 + shift) := by
    rw [Nat.pow_add]
    exact (Nat.div_lt_iff_lt_mul positive).mpr high
  have log : (num * unitsPerOne / den).log2 - 52 = shift := by
    rcases Nat.eq_zero_or_pos (num * unitsPerOne / den) with zero | nonzero
    · rcases low with rfl | low
      · rw [zero]
        rfl
      · have least := (Nat.le_div_iff_mul_le positive).mpr low
        have power : 0 < 2 ^ 52 * 2 ^ shift := by positivity
        omega
    · have upper := (Nat.log2_lt nonzero.ne').mpr most
      rcases low with rfl | low
      · omega
      · have least := (Nat.le_div_iff_mul_le positive).mpr low
        rw [← Nat.pow_add] at least
        have lower := (Nat.le_log2 nonzero.ne').mpr least
        omega
  unfold ofRatio
  simp only [log]
  change ofUnits negative (nearestEven (num * unitsPerOne) (den * 2 ^ shift) * 2 ^ shift) = _
  rw [nearest]

/-- The gap below a power of two is half the gap above it, except where subnormal numbers begin. -/
def gapBelow (exponent : Fin 2047) (fraction : Fin (Nat.pow 2 52)) : Nat :=
  if fraction.val = 0 ∧ 1 < exponent.val then spacing exponent else 2 * spacing exponent

theorem gapBelow_pos (exponent : Fin 2047) (fraction : Fin (Nat.pow 2 52)) :
    0 < gapBelow exponent fraction := by
  have space := spacing_pos exponent
  unfold gapBelow
  split <;> omega

theorem gapBelow_le (exponent : Fin 2047) (fraction : Fin (Nat.pow 2 52)) :
    gapBelow exponent fraction ≤ 2 * spacing exponent := by
  unfold gapBelow
  split <;> omega

open RoundingInterval in
theorem bounds_of_contains {num den : Nat}
    (inside : (ofFinite exponent fraction).contains (4 * num) den = true) :
    4 * (units exponent fraction * den) ≤ 4 * num + gapBelow exponent fraction * den ∧
      4 * num ≤ 4 * (units exponent fraction * den) + 2 * (spacing exponent * den) ∧
      (fraction.val % 2 = 0 ∨
        4 * (units exponent fraction * den) < 4 * num + gapBelow exponent fraction * den ∧
          4 * num < 4 * (units exponent fraction * den) + 2 * (spacing exponent * den)) := by
  have lower : (ofFinite exponent fraction).lower * den =
      4 * (units exponent fraction * den) - gapBelow exponent fraction * den := by
    change (4 * units exponent fraction - gapBelow exponent fraction) * den = _
    rw [Nat.sub_mul, Nat.mul_assoc]
  have upper : (ofFinite exponent fraction).upper * den =
      4 * (units exponent fraction * den) + 2 * (spacing exponent * den) := by
    change (4 * units exponent fraction + 2 * spacing exponent) * den = _
    rw [Nat.add_mul, Nat.mul_assoc, Nat.mul_assoc]
  unfold contains at inside
  simp only [lower, upper] at inside
  split at inside
  · rename_i closed
    have even : fraction.val % 2 = 0 := by simpa [ofFinite] using closed
    simp only [Bool.and_eq_true, decide_eq_true_eq] at inside
    omega
  · simp only [Bool.and_eq_true, decide_eq_true_eq] at inside
    omega

private theorem ofRatio_of_contains_below {num den : Nat} (positive : 0 < den)
    (power : fraction.val = 0 ∧ 1 < exponent.val)
    (inside : (RoundingInterval.ofFinite exponent fraction).contains (4 * (num * unitsPerOne)) den =
      true)
    (below : num * unitsPerOne < units exponent fraction * den) :
    ofRatio negative num den = .finite negative exponent fraction := by
  obtain ⟨low, -, -⟩ := bounds_of_contains inside
  obtain ⟨zero, large⟩ := power
  have first := units_of_power zero large
  have gap : gapBelow exponent fraction * den = 2 * (2 ^ (exponent.val - 2) * den) := by
    rw [gapBelow, if_pos ⟨zero, large⟩, spacing_eq_double large, Nat.mul_assoc]
  have half : 0 < 2 ^ (exponent.val - 2) * den := Nat.mul_pos (Nat.two_pow_pos _) positive
  rw [first, Nat.mul_assoc] at low below
  rw [← ofUnits_units, first]
  apply ofRatio_eq_ofUnits positive
  · right
    rw [Nat.mul_assoc]
    omega
  · rw [Nat.mul_assoc]
    exact below
  · rw [Nat.mul_comm den]
    exact nearestEven_eq half (by omega) (by omega) (.inl (by decide))

private theorem ofRatio_of_contains_above {num den : Nat} (positive : 0 < den)
    (inside : (RoundingInterval.ofFinite exponent fraction).contains (4 * (num * unitsPerOne)) den =
      true)
    (above : fraction.val = 0 ∧ 1 < exponent.val →
      units exponent fraction * den ≤ num * unitsPerOne) :
    ofRatio negative num den = .finite negative exponent fraction := by
  obtain ⟨low, high, tie⟩ := bounds_of_contains inside
  have gap : 0 < spacing exponent * den := Nat.mul_pos (spacing_pos exponent) positive
  have narrow := Nat.mul_le_mul_right den (gapBelow_le exponent fraction)
  rw [Nat.mul_assoc] at narrow
  have product : units exponent fraction * den =
      significand exponent fraction * (spacing exponent * den) := Nat.mul_assoc _ _ _
  rw [product] at low high tie above
  have most := Nat.mul_le_mul_right den (units_add_spacing_le exponent fraction)
  rw [Nat.add_mul, product, Nat.mul_assoc] at most
  rw [← ofUnits_units, units, spacing_eq]
  rw [spacing_eq] at *
  apply ofRatio_eq_ofUnits positive
  · by_cases small : exponent.val ≤ 1
    · exact .inl (by omega)
    · right
      rw [Nat.mul_assoc]
      by_cases zero : fraction.val = 0
      · have first : significand exponent fraction = 2 ^ 52 := by
          rw [significand_of_normal fraction (by omega), zero, Nat.add_zero]
        rw [first] at above
        exact above ⟨zero, by omega⟩
      · have least : 2 ^ 52 * (2 ^ (exponent.val - 1) * den) + 2 ^ (exponent.val - 1) * den ≤
            significand exponent fraction * (2 ^ (exponent.val - 1) * den) := by
          rw [← Nat.succ_mul, significand_of_normal fraction (by omega)]
          exact Nat.mul_le_mul_right _ (by omega)
        omega
  · rw [Nat.mul_assoc]
    omega
  · rw [Nat.mul_comm den]
    refine nearestEven_eq gap (by omega) (by omega) ?_
    rw [significand_mod_two]
    omega

/-- Whatever lies in the rounding interval of a number is read as that number. -/
theorem ofRatio_of_contains {num den : Nat} (positive : 0 < den)
    (inside : (RoundingInterval.ofFinite exponent fraction).contains (4 * (num * unitsPerOne)) den =
      true) :
    ofRatio negative num den = .finite negative exponent fraction := by
  by_cases below : (fraction.val = 0 ∧ 1 < exponent.val) ∧
      num * unitsPerOne < units exponent fraction * den
  · exact ofRatio_of_contains_below positive below.1 inside below.2
  · refine ofRatio_of_contains_above positive inside fun power => ?_
    exact Nat.not_lt.mp fun less => below ⟨power, less⟩

end Number
end Quire
