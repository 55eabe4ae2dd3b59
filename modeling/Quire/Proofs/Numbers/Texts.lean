import Quire.Proofs.Equality
import Quire.Proofs.Numbers.Numerals

set_option autoImplicit false

/-!
The text of a number is a numeral that is read back as the number.
-/

namespace Quire.Number

open RoundingInterval

variable {exponent : Fin 2047} {fraction : Fin (Nat.pow 2 52)}

private theorem eq_units_of_contains {count : Nat} (divides : spacing exponent ∣ count)
    (inside : (ofFinite exponent fraction).contains (4 * count) 1 = true) :
    count = units exponent fraction := by
  obtain ⟨low, high, -⟩ := bounds_of_contains inside
  have space := spacing_pos exponent
  have gap := gapBelow_le exponent fraction
  simp only [Nat.mul_one] at low high
  rcases lt_trichotomy count (units exponent fraction) with less | same | more
  · have far := add_le_of_dvd divides (spacing_dvd_units exponent fraction) less
    omega
  · exact same
  · have far := add_le_of_dvd (spacing_dvd_units exponent fraction) divides more
    omega

private theorem spacing_dvd_or_dvd (exponent : Fin 2047) :
    spacing exponent ∣ unitsPerOne ∨ unitsPerOne ∣ spacing exponent := by
  rw [spacing_eq, unitsPerOne_eq]
  exact (le_total _ _).imp (Nat.pow_dvd_pow 2) (Nat.pow_dvd_pow 2)

/-- Numbers with this spacing are as dense as the whole numbers or denser, so the digits are exact if
they are whole. -/
theorem scaled_shortest (nonzero : units exponent fraction ≠ 0)
    (dense : spacing exponent ∣ unitsPerOne) (whole : 0 ≤ (shortest exponent fraction).exponent) :
    (shortest exponent fraction).scaled * unitsPerOne = units exponent fraction :=
  eq_units_of_contains (dense.mul_left _) ((shortest_spec nonzero).1.contains_units whole)

private theorem shortest_of_eq_zero (zero : units exponent fraction = 0) :
    shortest exponent fraction = ⟨0, 0⟩ := if_pos zero

private theorem fits_whole (nonzero : units exponent fraction ≠ 0)
    (whole : unitsPerOne ∣ units exponent fraction) :
    (ofFinite exponent fraction).Fits 0 (units exponent fraction / unitsPerOne) := by
  have middle : ((units exponent fraction / unitsPerOne : Nat) : ℚ) * step 0 =
      (ofFinite exponent fraction).middle := by
    have quarters : units exponent fraction / unitsPerOne * quartersPerOne =
        4 * units exponent fraction := by
      rw [quartersPerOne, Nat.mul_left_comm, Nat.div_mul_cancel whole]
    rw [step, zpow_zero, one_mul, ← Nat.cast_mul, quarters]
    rfl
  unfold Fits
  rw [middle]
  exact (proper_ofFinite nonzero).contains_middle

private theorem exponent_shortest_neg_iff :
    (shortest exponent fraction).exponent < 0 ↔ ¬ unitsPerOne ∣ units exponent fraction := by
  by_cases zero : units exponent fraction = 0
  · rw [shortest_of_eq_zero zero, zero]
    exact iff_of_false (lt_irrefl _) (not_not.mpr (Nat.dvd_zero _))
  constructor
  · intro broken whole
    exact (shortest_spec zero).2 0 broken _ (fits_whole zero whole)
  · intro broken
    by_contra whole
    rcases spacing_dvd_or_dvd exponent with dense | sparse
    · exact broken ⟨_, (scaled_shortest zero dense (not_lt.mp whole)).symm.trans (Nat.mul_comm _ _)⟩
    · exact broken (sparse.trans (spacing_dvd_units exponent fraction))

private theorem spacing_dvd_of_small (small : units exponent fraction / unitsPerOne < integerBound) :
    spacing exponent ∣ unitsPerOne := by
  rcases spacing_dvd_or_dvd exponent with dense | sparse
  · exact dense
  · by_cases subnormal : exponent.val = 0
    · rw [spacing_eq, subnormal]
      exact one_dvd _
    · have wide : unitsPerOne ≤ spacing exponent := Nat.le_of_dvd (spacing_pos exponent) sparse
      have large : 2 ^ 52 * unitsPerOne ≤ units exponent fraction := by
        rw [units, significand_of_normal fraction subnormal]
        exact Nat.mul_le_mul (by omega) wide
      have bound := (Nat.le_div_iff_mul_le unitsPerOne_pos).mpr large
      exact absurd (bound.trans_lt small) (by decide)

private theorem text_shortest_of_whole (whole : unitsPerOne ∣ units exponent fraction)
    (small : units exponent fraction / unitsPerOne < integerBound) :
    (shortest exponent fraction).text = toString (units exponent fraction / unitsPerOne) := by
  by_cases zero : units exponent fraction = 0
  · rw [shortest_of_eq_zero zero, zero, Nat.zero_div]
    rfl
  · have nonneg : 0 ≤ (shortest exponent fraction).exponent :=
      not_lt.mp fun broken => exponent_shortest_neg_iff.mp broken whole
    have exact := scaled_shortest zero (spacing_dvd_of_small small) nonneg
    rw [Decimal.text, if_pos nonneg, ← exact, Nat.mul_div_cancel _ unitsPerOne_pos]
    rfl

private theorem toString_neg_natCast {count : Nat} (positive : 0 < count) :
    toString (-(count : Int)) = "-" ++ toString count := by
  rw [Int.toString_eq_repr, Int.repr_eq_if, if_neg (by omega), neg_neg, Int.toNat_natCast]
  rfl

private theorem eq_zero_of_units (negative : Bool) (none : units exponent fraction = 0) :
    finite negative exponent fraction = zero negative := by
  obtain ⟨noExponent, noFraction⟩ := units_eq_zero_iff.mp none
  obtain rfl : exponent = 0 := Fin.ext noExponent
  obtain rfl : fraction = ⟨0, by decide⟩ := Fin.ext noFraction
  rfl

/-- But for the sign of zero, small whole numbers need no path of their own. -/
theorem text_eq_positional {number : Number} (other : number ≠ zero true) :
    number.text = number.positional := by
  cases number with
  | nan => rfl
  | infinite negative => rfl
  | finite negative exponent fraction =>
      unfold text toInt?
      by_cases divides : unitsPerOne ∣ units exponent fraction
      · simp only [if_pos (Nat.mod_eq_zero_of_dvd divides)]
        by_cases small : units exponent fraction / unitsPerOne < integerBound
        · cases negative with
          | false =>
              rw [positional, text_shortest_of_whole divides small]
              exact if_pos small
          | true =>
              have nonzero : 0 < units exponent fraction :=
                Nat.pos_of_ne_zero fun none => other (eq_zero_of_units true none)
              have positive : 0 < units exponent fraction / unitsPerOne :=
                Nat.div_pos (Nat.le_of_dvd nonzero divides) unitsPerOne_pos
              rw [positional, text_shortest_of_whole divides small]
              exact (if_pos ((Int.natAbs_neg _).trans_lt small)).trans (toString_neg_natCast positive)
        · cases negative with
          | false => exact if_neg small
          | true => exact if_neg fun less => small ((Int.natAbs_neg _).symm.trans_lt less)
      · simp only [if_neg fun whole => divides (Nat.dvd_of_mod_eq_zero whole)]

def numeral (negative : Bool) (exponent : Fin 2047) (fraction : Fin (Nat.pow 2 52)) : Numeral :=
  (shortest exponent fraction).numeral (negative && decide (units exponent fraction ≠ 0))

section Numerals

variable (negative : Bool)

private theorem numeral_of_ne_zero (nonzero : units exponent fraction ≠ 0) :
    numeral negative exponent fraction = (shortest exponent fraction).numeral negative := by
  rw [numeral, decide_eq_true nonzero, Bool.and_true]

private theorem numeral_of_eq_zero (zero : units exponent fraction = 0) :
    numeral negative exponent fraction = (⟨0, 0⟩ : Decimal).numeral false := by
  rw [numeral, shortest_of_eq_zero zero, decide_eq_false (not_not.mpr zero), Bool.and_false]

private theorem value?_zero : (Number.zero negative).value? = some 0 := by
  have none : units 0 ⟨0, by decide⟩ = 0 := by decide
  rw [Number.zero, value?_finite, magnitude, none, Nat.cast_zero, zero_div]
  cases negative <;> simp [signed]

private theorem text_finite (exponent : Fin 2047) (fraction : Fin (Nat.pow 2 52)) :
    (finite negative exponent fraction).text = (numeral negative exponent fraction).text := by
  by_cases zero : units exponent fraction = 0
  · rw [numeral_of_eq_zero negative zero, eq_zero_of_units negative zero]
    cases negative <;> decide +kernel
  · have other : finite negative exponent fraction ≠ Number.zero true := by
      intro same
      cases same
      exact zero (units_eq_zero_iff.mpr ⟨rfl, rfl⟩)
    rw [text_eq_positional other, numeral_of_ne_zero negative zero, Decimal.text_numeral, positional]

private theorem contains_shortest (nonzero : units exponent fraction ≠ 0) :
    (ofFinite exponent fraction).Contains
      ((shortest exponent fraction).value * quartersPerOne) :=
  fits_iff_contains.mp (shortest_spec nonzero).1

private theorem value?_rounded_numeral (exponent : Fin 2047) (fraction : Fin (Nat.pow 2 52)) :
    (numeral negative exponent fraction).rounded.value? =
      (finite negative exponent fraction).value? := by
  by_cases zero : units exponent fraction = 0
  · rw [numeral_of_eq_zero negative zero, eq_zero_of_units negative zero, value?_zero]
    exact value?_zero false
  · have fits : (ofFinite exponent fraction).Fits
        ((shortest exponent fraction).numeral negative).decimal.exponent
        ((shortest exponent fraction).numeral negative).decimal.digits := by
      rw [fits_iff_contains, Decimal.value_numeral]
      exact contains_shortest zero
    rw [numeral_of_ne_zero negative zero, Numeral.rounded, ofDecimal_of_fits zero fits]
    rfl

private theorem isNearest_numeral (exponent : Fin 2047) (fraction : Fin (Nat.pow 2 52)) :
    (finite negative exponent fraction).IsNearest (numeral negative exponent fraction).value := by
  by_cases zero : units exponent fraction = 0
  · have none : (numeral negative exponent fraction).value = 0 := by
      rw [numeral_of_eq_zero negative zero, Numeral.value, Decimal.value_numeral]
      simp [Decimal.value, Decimal.numeral, signed]
    rw [eq_zero_of_units negative zero, none]
    refine ⟨0, value?_zero negative, fun other elsewhere _ => ⟨by simp, fun equal => .inl ?_⟩⟩
    simpa using equal.symm
  · rw [numeral_of_ne_zero negative zero, Numeral.value, Decimal.value_numeral]
    exact isNearest_of_contains zero (contains_shortest zero) negative

theorem value_numeral (exponent : Fin 2047) (fraction : Fin (Nat.pow 2 52)) :
    (numeral negative exponent fraction).value =
      signed (numeral negative exponent fraction).negative (shortest exponent fraction).value := by
  rw [Numeral.value, numeral, Decimal.value_numeral]

private theorem width_shortest_le_of_isNearest {decimal : Decimal}
    (nearest : (finite negative exponent fraction).IsNearest
      (signed (numeral negative exponent fraction).negative decimal.value)) :
    (shortest exponent fraction).width ≤ decimal.width := by
  by_cases zero : units exponent fraction = 0
  · rw [shortest_of_eq_zero zero]
    exact Nat.length_toDigits_pos
  · rw [numeral_of_ne_zero negative zero] at nearest
    exact width_shortest_le zero (fits_iff_contains.mpr (contains_of_isNearest zero nearest))

end Numerals

section Values

variable {negative : Bool}

private theorem abs_signed_magnitude :
    |signed negative (magnitude exponent fraction)| = magnitude exponent fraction := by
  rw [abs_signed, abs_of_nonneg (magnitude_nonneg exponent fraction)]

private theorem exists_int_iff :
    (∃ whole : Int, signed negative (magnitude exponent fraction) = whole) ↔
      unitsPerOne ∣ units exponent fraction := by
  have one_ne := unitsPerOne_cast_pos.ne'
  constructor
  · rintro ⟨whole, same⟩
    have size := congrArg abs same
    rw [abs_signed_magnitude, ← Int.cast_abs, Int.abs_eq_natAbs, Int.cast_natCast, magnitude,
      div_eq_iff one_ne] at size
    have count : units exponent fraction = whole.natAbs * unitsPerOne :=
      Nat.cast_injective (size.trans (Nat.cast_mul _ _).symm)
    exact ⟨whole.natAbs, count.trans (Nat.mul_comm _ _)⟩
  · rintro ⟨whole, same⟩
    refine ⟨if negative then -whole else whole, ?_⟩
    rw [magnitude, same, Nat.cast_mul, mul_div_cancel_left₀ _ one_ne]
    cases negative <;> simp [signed]

private theorem negative_numeral_iff :
    (numeral negative exponent fraction).negative = true ↔
      signed negative (magnitude exponent fraction) < 0 := by
  change (negative && decide (units exponent fraction ≠ 0)) = true ↔ _
  cases negative with
  | false => exact iff_of_false nofun (not_lt.mpr (magnitude_nonneg exponent fraction))
  | true =>
      rw [Bool.true_and, decide_eq_true_iff, signed, if_pos rfl, neg_lt_zero, magnitude,
        div_pos_iff_of_pos_right unitsPerOne_cast_pos, Nat.cast_pos, Nat.pos_iff_ne_zero]

private theorem fraction_numeral_iff :
    (numeral negative exponent fraction).fraction ≠ [] ↔
      ¬ ∃ whole : Int, signed negative (magnitude exponent fraction) = whole := by
  rw [exists_int_iff, ← exponent_shortest_neg_iff]
  exact Decimal.further_ne_nil_iff

private theorem numeral_eq_of_value {other : Bool} {exponent' : Fin 2047} {fraction' : Fin (Nat.pow 2 52)}
    (same : signed negative (magnitude exponent fraction) =
      signed other (magnitude exponent' fraction')) :
    numeral negative exponent fraction = numeral other exponent' fraction' := by
  have count : units exponent fraction = units exponent' fraction' := by
    have size := congrArg abs same
    rw [abs_signed_magnitude, abs_signed_magnitude, magnitude, magnitude,
      div_left_inj' unitsPerOne_cast_pos.ne'] at size
    exact Nat.cast_injective size
  have fields : finite false exponent fraction = finite false exponent' fraction' := by
    rw [← ofUnits_units, count, ofUnits_units]
  obtain ⟨-, rfl, rfl⟩ := Number.finite.inj fields
  have sign : (numeral negative exponent fraction).negative =
      (numeral other exponent fraction).negative := by
    rw [Bool.eq_iff_iff, negative_numeral_iff, negative_numeral_iff, same]
  exact congrArg (shortest exponent fraction).numeral sign

end Values

private theorem text_eq_text_iff {negative other : Bool} {exponent' : Fin 2047}
    {fraction' : Fin (Nat.pow 2 52)} :
    (finite other exponent' fraction').text = (finite negative exponent fraction).text ↔
      signed other (magnitude exponent' fraction') =
        signed negative (magnitude exponent fraction) := by
  rw [text_finite, text_finite]
  constructor
  · intro same
    have values := congrArg (fun numeral => numeral.rounded.value?) (Numeral.text_injective same)
    simp only [value?_rounded_numeral, value?_finite] at values
    exact Option.some.inj values
  · intro same
    rw [numeral_eq_of_value same]

private theorem text_ne_negative_zero (negative : Bool) (exponent : Fin 2047)
    (fraction : Fin (Nat.pow 2 52)) : (finite negative exponent fraction).text ≠ "-0" := by
  intro same
  have minus : ((⟨0, 0⟩ : Decimal).numeral true).text = "-0" := by
    rw [Decimal.text_numeral]
    decide +kernel
  rw [text_finite, ← minus] at same
  have read := Numeral.text_injective same
  have below := negative_numeral_iff.mp (congrArg Numeral.negative read)
  have value := value?_rounded_numeral negative exponent fraction
  rw [read, value?_finite] at value
  have zero := Option.some.inj ((value?_zero true).symm.trans value)
  exact absurd zero below.ne'

private theorem exists_finite_of_value? {number : Number} {value : ℚ} (finite : number.value? = some value) :
    ∃ negative exponent fraction, number = .finite negative exponent fraction ∧
      value = signed negative (magnitude exponent fraction) := by
  cases number with
  | nan => cases finite
  | infinite negative => cases finite
  | finite negative exponent fraction =>
      refine ⟨negative, exponent, fraction, rfl, ?_⟩
      exact Option.some.inj (finite.symm.trans (value?_finite negative exponent fraction))

private theorem eq_of_ofBits_eq_zero {bits : UInt64} (zero : ofBits bits = Number.zero true) :
    bits = 0x8000000000000000 := by
  unfold ofBits at zero
  simp only at zero
  split at zero
  · obtain ⟨sign, noExponent, noFraction⟩ := Number.finite.inj zero
    have top : 2 ^ 63 ≤ bits.toNat := of_decide_eq_true sign
    have middle : bits.toNat / 2 ^ 52 % 2 ^ 11 = 0 := congrArg Fin.val noExponent
    have low : bits.toNat % 2 ^ 52 = 0 := congrArg Fin.val noFraction
    have bound := bits.toNat_lt
    apply UInt64.toNat_inj.mp
    change bits.toNat = 2 ^ 63
    omega
  · split at zero <;> cases zero

/-- The text of a finite number is a numeral, with a sign exactly if the number is negative and with a
fraction exactly if it is not whole, and never that of a negative zero. Reading it gives the number
back, which is also the one nearest to the numeral, and no decimal that is rounded to the number has
fewer digits. So numbers have the same text exactly if they have the same value, and only for the
negative zero does the text differ from the positional one. -/
theorem text_faithful {bits : UInt64} {value : ℚ} (finite : (ofBits bits).value? = some value) :
    (∃ numeral : Numeral,
      numeral.text = (ofBits bits).text ∧
      (numeral.negative = true ↔ value < 0) ∧
      (numeral.fraction ≠ [] ↔ ¬ ∃ whole : Int, value = whole) ∧
      Numeral.read? (ofBits bits).text = some numeral ∧
      numeral.rounded.value? = some value ∧
      (ofBits bits).IsNearest numeral.value ∧
      ∃ decimal : Decimal, numeral.value = signed numeral.negative decimal.value ∧
        ∀ other : Decimal, (ofBits bits).IsNearest (signed numeral.negative other.value) →
          decimal.width ≤ other.width) ∧
    (ofBits bits).text ≠ "-0" ∧
    (∀ other otherValue, (ofBits other).value? = some otherValue →
      ((ofBits other).text = (ofBits bits).text ↔ otherValue = value)) ∧
    ((ofBits bits).text = (ofBits bits).positional ↔ bits ≠ 0x8000000000000000) := by
  obtain ⟨negative, exponent, fraction, number, rfl⟩ := exists_finite_of_value? finite
  have unlike : (ofBits bits).text ≠ "-0" :=
    number ▸ text_ne_negative_zero negative exponent fraction
  refine ⟨⟨numeral negative exponent fraction, ?_⟩, unlike, ?_, ?_, ?_⟩
  · rw [number, text_finite]
    exact ⟨rfl, negative_numeral_iff, fraction_numeral_iff, Numeral.read?_eq_some_iff.mpr rfl,
      (value?_rounded_numeral negative exponent fraction).trans (value?_finite _ _ _),
      isNearest_numeral negative exponent fraction, shortest exponent fraction,
      value_numeral negative exponent fraction, fun _ => width_shortest_le_of_isNearest negative⟩
  · intro other otherValue otherFinite
    obtain ⟨sign, exponent', fraction', otherNumber, rfl⟩ := exists_finite_of_value? otherFinite
    rw [number, otherNumber]
    exact text_eq_text_iff
  · rintro same rfl
    exact unlike (same.trans (by decide +kernel))
  · intro other
    exact text_eq_positional fun zero => other (eq_of_ofBits_eq_zero zero)

theorem text_faithful_threeTenths :
    (ofBits 0xBFD3333333333333).value? = some (-5404319552844595 / 2 ^ 54) ∧
      (ofBits 0xBFD3333333333334).value? = some (-5404319552844596 / 2 ^ 54) ∧
      (ofBits 0xBFD3333333333333).text = "-0.3" ∧
      (∃ numeral, Numeral.read? "-0.3" = some numeral ∧
        numeral.rounded.value? = some (-5404319552844595 / 2 ^ 54) ∧
        (ofBits 0xBFD3333333333333).IsNearest numeral.value) ∧
      (ofBits 0xBFD3333333333334).text ≠ "-0.3" := by
  have here : (ofBits 0xBFD3333333333333).value? = some (-5404319552844595 / 2 ^ 54) := by
    have number : ofBits 0xBFD3333333333333 = .finite true 1021 ⟨0x3333333333333, by decide⟩ := by
      decide +kernel
    rw [number]
    norm_num [value?, signed, significand]
  have next : (ofBits 0xBFD3333333333334).value? = some (-5404319552844596 / 2 ^ 54) := by
    have number : ofBits 0xBFD3333333333334 = .finite true 1021 ⟨0x3333333333334, by decide⟩ := by
      decide +kernel
    rw [number]
    norm_num [value?, signed, significand]
  have text : (ofBits 0xBFD3333333333333).text = "-0.3" := by decide +kernel
  obtain ⟨⟨numeral, -, -, -, read, rounded, nearest, -⟩, -, injective, -⟩ :=
    text_faithful here
  rw [text] at read injective
  refine ⟨here, next, text, ⟨numeral, read, rounded, nearest⟩, fun same => ?_⟩
  have values := (injective _ _ next).mp same
  norm_num at values

end Quire.Number
