import Mathlib.Tactic.Linarith
import Mathlib.Tactic.Qify
import Quire.Proofs.Numbers.ShortestDigits

set_option autoImplicit false

/-!
Exact values of numbers, and the number that an exact value is rounded to.
-/

namespace Quire.Number

open RoundingInterval

def signed (negative : Bool) (magnitude : ℚ) : ℚ :=
  if negative then -magnitude else magnitude

def value? : Number → Option ℚ
  | .finite negative exponent fraction =>
      some (signed negative (significand exponent fraction * 2 ^ ((max exponent.val 1 : Nat) - 1075 : Int)))
  | _ => none

/-- Where rounding sees a number. Infinity takes the place of the power of two past the finite range. -/
def place? : Number → Option ℚ
  | .infinite negative => some (signed negative (2 ^ 1024))
  | number => number.value?

def isEven : Number → Bool
  | .nan => false
  | .infinite _ => true
  | .finite _ _ fraction => fraction.val % 2 == 0

/-- A number is nearest to an exact value if none is nearer, and if it is even should another one be as
near. -/
def IsNearest (number : Number) (exact : ℚ) : Prop :=
  ∃ place, number.place? = some place ∧
    ∀ (other : Number) (elsewhere : ℚ), other.place? = some elsewhere →
      |exact - place| ≤ |exact - elsewhere| ∧
        (|exact - place| = |exact - elsewhere| → elsewhere = place ∨ number.isEven = true)

variable {exponent : Fin 2047} {fraction : Fin (Nat.pow 2 52)}

def magnitude (exponent : Fin 2047) (fraction : Fin (Nat.pow 2 52)) : ℚ :=
  units exponent fraction / unitsPerOne

theorem unitsPerOne_cast_pos : (0 : ℚ) < unitsPerOne :=
  Nat.cast_pos.mpr unitsPerOne_pos

theorem magnitude_nonneg (exponent : Fin 2047) (fraction : Fin (Nat.pow 2 52)) :
    0 ≤ magnitude exponent fraction :=
  div_nonneg (Nat.cast_nonneg _) unitsPerOne_cast_pos.le

theorem value?_finite (negative : Bool) (exponent : Fin 2047) (fraction : Fin (Nat.pow 2 52)) :
    (finite negative exponent fraction).value? =
      some (signed negative (magnitude exponent fraction)) := by
  have power : ((max exponent.val 1 : Nat) - 1075 : Int) =
      ((exponent.val - 1 : Nat) : Int) - (unitPower : Nat) := by
    unfold unitPower
    omega
  have exact : (significand exponent fraction : ℚ) * 2 ^ ((max exponent.val 1 : Nat) - 1075 : Int) =
      magnitude exponent fraction := by
    rw [magnitude, power, zpow_sub₀ two_ne_zero, zpow_natCast, zpow_natCast, units, spacing_eq,
      unitsPerOne_eq, mul_div_assoc']
    push_cast
    rfl
  exact congrArg (fun magnitude => some (signed negative magnitude)) exact

private theorem place?_finite (negative : Bool) (exponent : Fin 2047) (fraction : Fin (Nat.pow 2 52)) :
    (finite negative exponent fraction).place? =
      some (signed negative (units exponent fraction / unitsPerOne)) :=
  value?_finite negative exponent fraction

/-- Counts of units with no more significant bits than a number has. -/
def Representable (count : Nat) : Prop :=
  ∃ bits power, bits < 2 ^ 53 ∧ count = bits * 2 ^ power

private theorem representable_units (exponent : Fin 2047) (fraction : Fin (Nat.pow 2 52)) :
    Representable (units exponent fraction) :=
  ⟨significand exponent fraction, exponent.val - 1, significand_lt exponent fraction, by
    rw [units, spacing_eq]⟩

private theorem Representable.dvd {count power : Nat} (representable : Representable count)
    (large : 2 ^ 52 * 2 ^ power ≤ count) : 2 ^ power ∣ count := by
  obtain ⟨bits, own, bounded, rfl⟩ := representable
  have finer : power ≤ own := by
    by_contra coarser
    have double : 2 * 2 ^ own ≤ 2 ^ power := by
      rw [← Nat.pow_succ']
      exact Nat.pow_le_pow_right Nat.two_pos (by omega)
    have less := Nat.mul_lt_mul_of_pos_right bounded (Nat.two_pow_pos own)
    omega
  exact (Nat.pow_dvd_pow 2 finer).mul_left bits

theorem spacing_dvd_units (exponent : Fin 2047) (fraction : Fin (Nat.pow 2 52)) :
    spacing exponent ∣ units exponent fraction :=
  Nat.dvd_mul_left _ _

theorem add_le_of_dvd {step low high : Nat} (first : step ∣ low) (second : step ∣ high)
    (less : low < high) : low + step ≤ high := by
  by_contra near
  exact absurd (Nat.le_of_lt_add_of_dvd (by omega) second first) (not_le.mpr less)

private theorem add_spacing_le {count : Nat} (representable : Representable count)
    (more : units exponent fraction < count) :
    units exponent fraction + spacing exponent ≤ count := by
  apply add_le_of_dvd (spacing_dvd_units exponent fraction) _ more
  rw [spacing_eq]
  by_cases subnormal : exponent.val = 0
  · rw [subnormal]
    exact one_dvd _
  · apply representable.dvd
    rw [units, significand_of_normal fraction subnormal, spacing_eq] at more
    exact le_trans (Nat.mul_le_mul_right _ (by omega)) more.le

private theorem add_gapBelow_le {count : Nat} (representable : Representable count)
    (less : count < units exponent fraction) :
    2 * count + gapBelow exponent fraction ≤ 2 * units exponent fraction := by
  have far : ∀ power, 2 ^ power ∣ units exponent fraction →
      (2 ^ 52 + 1) * 2 ^ power ≤ units exponent fraction →
      count + 2 ^ power ≤ units exponent fraction := by
    intro power divides large
    rcases Nat.lt_or_ge count (2 ^ 52 * 2 ^ power) with small | enough
    · rw [Nat.succ_mul] at large
      omega
    · exact add_le_of_dvd (representable.dvd enough) divides less
  unfold gapBelow
  split
  · rename_i power
    obtain ⟨zero, normal⟩ := power
    have first := units_of_power zero normal
    have near := far (exponent.val - 2) (by rw [first]; exact Nat.dvd_mul_left _ _)
      (by rw [first]; exact Nat.mul_le_mul_right _ (by decide))
    rw [spacing_eq_double normal]
    omega
  · rename_i ordinary
    rw [spacing_eq]
    by_cases small : exponent.val ≤ 1
    · obtain one : exponent.val - 1 = 0 := by omega
      rw [one]
      omega
    · have near := far (exponent.val - 1) (spacing_eq exponent ▸ spacing_dvd_units exponent fraction)
        (by
          rw [units, significand_of_normal fraction (by omega), spacing_eq]
          exact Nat.mul_le_mul_right _ (by omega))
      omega

private theorem contains_ofFinite_iff (nonzero : units exponent fraction ≠ 0) {exact : ℚ} :
    (ofFinite exponent fraction).Contains (4 * exact) ↔
      4 * (units exponent fraction : ℚ) ≤ 4 * exact + gapBelow exponent fraction ∧
      4 * exact ≤ 4 * units exponent fraction + 2 * spacing exponent ∧
      (fraction.val % 2 = 0 ∨
        4 * (units exponent fraction : ℚ) < 4 * exact + gapBelow exponent fraction ∧
          4 * exact < 4 * units exponent fraction + 2 * spacing exponent) := by
  have within : gapBelow exponent fraction ≤ 4 * units exponent fraction := by
    have least := spacing_le_units nonzero
    have narrow := gapBelow_le exponent fraction
    omega
  have lower : ((ofFinite exponent fraction).lower : ℚ) =
      4 * units exponent fraction - gapBelow exponent fraction := by
    change ((4 * units exponent fraction - gapBelow exponent fraction : Nat) : ℚ) = _
    rw [Nat.cast_sub within, Nat.cast_mul]
    rfl
  have upper : ((ofFinite exponent fraction).upper : ℚ) =
      4 * units exponent fraction + 2 * spacing exponent := by
    change ((4 * units exponent fraction + 2 * spacing exponent : Nat) : ℚ) = _
    push_cast
    rfl
  have closed : (ofFinite exponent fraction).closed = true ↔ fraction.val % 2 = 0 := beq_iff_eq
  unfold Contains
  rw [lower, upper]
  simp only [closed, sub_le_iff_le_add, sub_lt_iff_lt_add]
  split
  · rename_i even
    exact ⟨fun bounds => ⟨bounds.1, bounds.2, .inl even⟩, fun bounds => ⟨bounds.1, bounds.2.1⟩⟩
  · rename_i odd
    exact ⟨fun bounds => ⟨bounds.1.le, bounds.2.le, .inr bounds⟩,
      fun bounds => bounds.2.2.resolve_left odd⟩

private theorem abs_sub_le_iff_side {exact near far : ℚ} :
    |exact - near| ≤ |exact - far| ↔ 0 ≤ (far - near) * (near + far - 2 * exact) := by
  rw [← sq_le_sq, ← sub_nonneg]
  ring_nf

private theorem abs_sub_lt_iff_side {exact near far : ℚ} :
    |exact - near| < |exact - far| ↔ 0 < (far - near) * (near + far - 2 * exact) := by
  rw [← sq_lt_sq, ← sub_pos]
  ring_nf

private theorem distance_le (nonzero : units exponent fraction ≠ 0) {exact : ℚ}
    (inside : (ofFinite exponent fraction).Contains (4 * exact)) {count : Nat}
    (representable : Representable count) :
    |exact - units exponent fraction| ≤ |exact - count| ∧
      (|exact - units exponent fraction| = |exact - count| →
        count = units exponent fraction ∨ fraction.val % 2 = 0) := by
  obtain ⟨low, high, tie⟩ := (contains_ofFinite_iff nonzero).mp inside
  rcases lt_trichotomy count (units exponent fraction) with less | same | more
  · have gap := add_gapBelow_le representable less
    qify at less gap
    constructor
    · exact abs_sub_le_iff_side.mpr (mul_nonneg_of_nonpos_of_nonpos (by linarith) (by linarith))
    · refine fun equal => .inr (tie.resolve_right fun strict => equal.not_lt ?_)
      exact abs_sub_lt_iff_side.mpr (mul_pos_of_neg_of_neg (by linarith) (by linarith))
  · rw [same]
    exact ⟨le_rfl, fun _ => .inl rfl⟩
  · have gap := add_spacing_le representable more
    qify at more gap
    constructor
    · exact abs_sub_le_iff_side.mpr (mul_nonneg (by linarith) (by linarith))
    · refine fun equal => .inr (tie.resolve_right fun strict => equal.not_lt ?_)
      exact abs_sub_lt_iff_side.mpr (mul_pos (by linarith) (by linarith))

section Signs

variable (negative : Bool) (magnitude other : ℚ)

private theorem signed_not : signed (!negative) magnitude = signed negative (-magnitude) := by
  cases negative <;> simp [signed]

private theorem signed_div : signed negative (magnitude / other) = signed negative magnitude / other := by
  cases negative
  · rfl
  · exact (neg_div other magnitude).symm

private theorem signed_sub :
    signed negative magnitude - signed negative other = signed negative (magnitude - other) := by
  cases negative
  · rfl
  · simp only [signed, if_true]
    ring

theorem abs_signed : |signed negative magnitude| = |magnitude| := by
  cases negative
  · rfl
  · exact abs_neg magnitude

private theorem signed_inj : signed negative magnitude = signed negative other ↔ magnitude = other := by
  cases negative <;> simp [signed]

private theorem abs_sub_place (negative' : Bool) (exact : ℚ) :
    |signed negative exact - signed negative' (magnitude / unitsPerOne)| =
      |signed negative (exact * unitsPerOne) - signed negative' magnitude| / unitsPerOne := by
  have units : exact = exact * unitsPerOne / unitsPerOne :=
    (mul_div_cancel_right₀ _ unitsPerOne_cast_pos.ne').symm
  nth_rewrite 1 [units]
  rw [signed_div, signed_div, ← sub_div, abs_div, abs_of_pos unitsPerOne_cast_pos]

end Signs

private theorem abs_signed_sub_le {exact : ℚ} (positive : 0 < exact) (negative other : Bool) (count : Nat) :
    |exact - count| ≤ |signed negative exact - signed other count| ∧
      (|exact - count| = |signed negative exact - signed other count| →
        signed other (count : ℚ) = signed negative count) := by
  by_cases agree : other = negative
  · rw [agree, signed_sub, abs_signed]
    exact ⟨le_rfl, fun _ => rfl⟩
  · have count_nonneg : (0 : ℚ) ≤ count := Nat.cast_nonneg count
    have sum : |signed negative exact - signed other (count : ℚ)| = exact + count := by
      rw [Bool.eq_not_of_ne agree, signed_not, signed_sub, abs_signed, sub_neg_eq_add]
      exact abs_of_pos (by linarith)
    rw [sum]
    refine ⟨abs_le.mpr ⟨by linarith, by linarith⟩, fun equal => ?_⟩
    have zero : (count : ℚ) = 0 := by
      rcases abs_cases (exact - count) with ⟨same, -⟩ | ⟨same, -⟩ <;> linarith
    rw [zero]
    cases other <;> cases negative <;> simp [signed]

private theorem place?_infinite (negative : Bool) :
    (infinite negative).place? =
      some (signed negative ((2 ^ (1024 + unitPower) : Nat) / unitsPerOne)) := by
  have power : (2 : ℚ) ^ 1024 = (2 ^ (1024 + unitPower) : Nat) / unitsPerOne := by
    rw [unitsPerOne_eq]
    generalize 1024 = exponent
    push_cast
    rw [pow_add, mul_div_cancel_right₀ _ (by positivity)]
  rw [← power]
  rfl

private theorem exists_count_of_place? {number : Number} {place : ℚ} (seen : number.place? = some place) :
    ∃ negative count, Representable count ∧ place = signed negative (count / unitsPerOne) := by
  cases number with
  | nan => cases seen
  | infinite negative =>
      refine ⟨negative, 2 ^ (1024 + unitPower), ⟨1, _, by decide, (Nat.one_mul _).symm⟩, ?_⟩
      exact (Option.some.inj ((place?_infinite negative).symm.trans seen)).symm
  | finite negative exponent fraction =>
      refine ⟨negative, _, representable_units exponent fraction, ?_⟩
      exact (Option.some.inj ((place?_finite negative exponent fraction).symm.trans seen)).symm

private theorem mul_quartersPerOne (exact : ℚ) : exact * quartersPerOne = 4 * (exact * unitsPerOne) := by
  rw [quartersPerOne, Nat.cast_mul]
  push_cast
  ring

/-- Whatever lies in the rounding interval of a number has it as the nearest one. -/
theorem isNearest_of_contains {exact : ℚ} (nonzero : units exponent fraction ≠ 0)
    (inside : (ofFinite exponent fraction).Contains (exact * quartersPerOne)) (negative : Bool) :
    (finite negative exponent fraction).IsNearest (signed negative exact) := by
  have one_pos := unitsPerOne_cast_pos
  rw [mul_quartersPerOne] at inside
  have positive : 0 < exact * unitsPerOne := by
    have least := (proper_ofFinite nonzero).one_le_of_contains inside
    linarith
  refine ⟨_, place?_finite negative exponent fraction, fun other elsewhere seen => ?_⟩
  obtain ⟨otherNegative, count, representable, rfl⟩ := exists_count_of_place? seen
  rw [abs_sub_place, abs_sub_place, div_le_div_iff_of_pos_right one_pos, div_left_inj' one_pos.ne',
    signed_sub, abs_signed]
  obtain ⟨nearest, tie⟩ := distance_le nonzero inside representable
  obtain ⟨sameSign, opposite⟩ := abs_signed_sub_le positive negative otherNegative count
  refine ⟨nearest.trans sameSign, fun equal => ?_⟩
  have atCount := le_antisymm nearest (sameSign.trans_eq equal.symm)
  rcases tie atCount with rfl | even
  · left
    rw [signed_div, signed_div, opposite (atCount.symm.trans equal)]
  · exact .inr (beq_iff_eq.mpr even)

section Neighbours

variable {next : Fin 2047} {following first : Fin (Nat.pow 2 52)}

private theorem units_succ (succ : following.val = fraction.val + 1) :
    units exponent following = units exponent fraction + spacing exponent := by
  have significand_succ : significand exponent following = significand exponent fraction + 1 := by
    by_cases subnormal : exponent.val = 0
    · rw [significand_of_subnormal _ subnormal, significand_of_subnormal _ subnormal, succ]
    · rw [significand_of_normal _ subnormal, significand_of_normal _ subnormal, succ, Nat.add_assoc]
  rw [units, significand_succ, Nat.succ_mul]
  rfl

private theorem units_add_spacing_of_last (last : fraction.val + 1 = 2 ^ 52) :
    units exponent fraction + spacing exponent = 2 ^ 52 * 2 ^ exponent.val := by
  rw [units, ← Nat.succ_mul, spacing_eq]
  by_cases subnormal : exponent.val = 0
  · rw [significand_of_subnormal fraction subnormal, subnormal, Nat.succ_eq_add_one, last]
  · have double : 2 ^ exponent.val = 2 * 2 ^ (exponent.val - 1) := by
      rw [← Nat.pow_succ']
      congr 1
      omega
    rw [significand_of_normal fraction subnormal, double, Nat.succ_eq_add_one, Nat.add_assoc, last]
    omega

private theorem units_carry (succ : next.val = exponent.val + 1) (last : fraction.val + 1 = 2 ^ 52)
    (zero : first.val = 0) :
    units next first = units exponent fraction + spacing exponent := by
  rw [units_add_spacing_of_last last, units, significand_of_normal first (by omega), spacing_eq, zero,
    succ]
  rfl

private theorem exists_next (negative : Bool) (exponent : Fin 2047) (fraction : Fin (Nat.pow 2 52)) :
    ∃ number : Number, number.place? =
      some (signed negative ((units exponent fraction + spacing exponent : Nat) / unitsPerOne)) := by
  by_cases inner : fraction.val + 1 < Nat.pow 2 52
  · have above : units exponent ⟨fraction.val + 1, inner⟩ =
        units exponent fraction + spacing exponent := units_succ rfl
    rw [← above]
    exact ⟨_, place?_finite negative exponent _⟩
  · have last : fraction.val + 1 = 2 ^ 52 := le_antisymm (fraction_lt fraction) (not_lt.mp inner)
    by_cases below : exponent.val + 1 < 2047
    · have above : units ⟨exponent.val + 1, below⟩ ⟨0, by decide⟩ =
          units exponent fraction + spacing exponent := units_carry rfl last rfl
      rw [← above]
      exact ⟨_, place?_finite negative _ _⟩
    · have top : exponent.val = 2046 := by omega
      have power : 52 + 2046 = 1024 + unitPower := rfl
      rw [units_add_spacing_of_last last, top, ← Nat.pow_add, power]
      exact ⟨_, place?_infinite negative⟩

private theorem exists_previous (negative : Bool) (nonzero : units exponent fraction ≠ 0) :
    ∃ (number : Number) (count : Nat),
      number.place? = some (signed negative (count / unitsPerOne)) ∧
        2 * count + gapBelow exponent fraction = 2 * units exponent fraction := by
  by_cases inner : fraction.val = 0
  · have normal : exponent.val ≠ 0 := by
      intro subnormal
      rw [units, significand_of_subnormal fraction subnormal, inner, Nat.zero_mul] at nonzero
      exact nonzero rfl
    obtain ⟨previous, succ⟩ : ∃ previous : Fin 2047, exponent.val = previous.val + 1 :=
      ⟨⟨exponent.val - 1, by omega⟩, (Nat.sub_add_cancel (Nat.pos_of_ne_zero normal)).symm⟩
    have below : units exponent fraction = units previous ⟨2 ^ 52 - 1, by decide⟩ + spacing previous :=
      units_carry succ rfl inner
    have gap : gapBelow exponent fraction = 2 * spacing previous := by
      unfold gapBelow
      split
      · rename_i power
        rw [spacing_eq_double power.2, spacing_eq, succ]
        rfl
      · rename_i lowest
        have first : previous.val = 0 := by omega
        rw [spacing_eq, spacing_eq, succ, first]
    exact ⟨_, _, place?_finite negative previous ⟨2 ^ 52 - 1, by decide⟩, by omega⟩
  · obtain ⟨previous, succ⟩ : ∃ previous : Fin (Nat.pow 2 52), fraction.val = previous.val + 1 :=
      ⟨⟨fraction.val - 1, (Nat.sub_le _ _).trans_lt fraction.isLt⟩,
        (Nat.sub_add_cancel (Nat.pos_of_ne_zero inner)).symm⟩
    have below : units exponent fraction = units exponent previous + spacing exponent :=
      units_succ succ
    have gap : gapBelow exponent fraction = 2 * spacing exponent :=
      if_neg fun power => inner power.1
    exact ⟨_, _, place?_finite negative exponent previous, by omega⟩

end Neighbours

private theorem IsNearest.abs_sub_le {exact : ℚ} {negative : Bool} {number : Number} {count : Nat}
    (nearest : (finite negative exponent fraction).IsNearest (signed negative exact))
    (seen : number.place? = some (signed negative (count / unitsPerOne))) :
    |exact * unitsPerOne - units exponent fraction| ≤ |exact * unitsPerOne - count| ∧
      (|exact * unitsPerOne - units exponent fraction| = |exact * unitsPerOne - count| →
        count = units exponent fraction ∨ fraction.val % 2 = 0) := by
  obtain ⟨place, own, closest⟩ := nearest
  have one_pos := unitsPerOne_cast_pos
  obtain rfl := Option.some.inj ((place?_finite negative exponent fraction).symm.trans own)
  obtain ⟨le, tie⟩ := closest number _ seen
  rw [abs_sub_place, abs_sub_place] at le tie
  simp only [signed_sub, abs_signed, div_le_div_iff_of_pos_right one_pos, div_left_inj' one_pos.ne',
    signed_inj, Nat.cast_inj] at le tie
  exact ⟨le, fun equal => (tie equal).imp_right beq_iff_eq.mp⟩

/-- Whatever is rounded to a number lies in its rounding interval. -/
theorem contains_of_isNearest {exact : ℚ} {negative : Bool} (nonzero : units exponent fraction ≠ 0)
    (nearest : (finite negative exponent fraction).IsNearest (signed negative exact)) :
    (ofFinite exponent fraction).Contains (exact * quartersPerOne) := by
  have space := spacing_pos exponent
  have gap := gapBelow_pos exponent fraction
  obtain ⟨next, above⟩ := exists_next negative exponent fraction
  obtain ⟨previous, count, below, distance⟩ := exists_previous negative nonzero
  obtain ⟨nextLe, nextTie⟩ := nearest.abs_sub_le above
  obtain ⟨previousLe, previousTie⟩ := nearest.abs_sub_le below
  rw [mul_quartersPerOne, contains_ofFinite_iff nonzero]
  generalize exact * unitsPerOne = scaled at *
  rw [Nat.cast_add] at nextLe nextTie
  have distance' : 2 * (count : ℚ) + gapBelow exponent fraction = 2 * units exponent fraction := by
    exact_mod_cast distance
  have space_pos : (0 : ℚ) < spacing exponent := Nat.cast_pos.mpr space
  have gap_pos : (0 : ℚ) < gapBelow exponent fraction := Nat.cast_pos.mpr gap
  have low : 4 * (units exponent fraction : ℚ) ≤ 4 * scaled + gapBelow exponent fraction := by
    by_contra less
    exact previousLe.not_gt (abs_sub_lt_iff_side.mpr (mul_pos (by linarith) (by linarith)))
  have high : 4 * scaled ≤ 4 * units exponent fraction + 2 * spacing exponent := by
    by_contra more
    refine nextLe.not_gt (abs_sub_lt_iff_side.mpr ?_)
    exact mul_pos_of_neg_of_neg (by linarith) (by linarith)
  refine ⟨low, high, or_iff_not_imp_left.mpr fun odd => ⟨low.lt_of_ne ?_, high.lt_of_ne ?_⟩⟩
  · intro half
    rcases previousTie (abs_eq_abs.mpr (.inr (by linarith))) with same | even
    · omega
    · exact odd even
  · intro half
    rcases nextTie (abs_eq_abs.mpr (.inr (by linarith))) with same | even
    · omega
    · exact odd even

end Quire.Number
