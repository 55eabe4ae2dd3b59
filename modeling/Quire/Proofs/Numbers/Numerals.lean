import Quire.Proofs.Numbers.NearestNumber

set_option autoImplicit false

/-!
Numerals: decimal text without an exponent.

A numeral is read back from its text, and every decimal is written as a numeral of the same value.
-/

namespace Quire

/-- A sign, digits without superfluous zeros in front, and further digits if a point follows. -/
structure Numeral where
  negative : Bool
  whole : List Char
  fraction : List Char
  nonempty : whole ≠ []
  leading : whole.head? = some '0' → whole = ['0']
  whole_digits : ∀ char ∈ whole, char.isDigit = true
  fraction_digits : ∀ char ∈ fraction, char.isDigit = true

namespace Numeral

def pointed (fraction : List Char) : List Char :=
  if fraction = [] then [] else '.' :: fraction

def chars (numeral : Numeral) : List Char :=
  (if numeral.negative then ['-'] else []) ++ (numeral.whole ++ pointed numeral.fraction)

def text (numeral : Numeral) : String :=
  String.ofList numeral.chars

def decimal (numeral : Numeral) : Decimal where
  digits := Nat.ofDigitChars 10 (numeral.whole ++ numeral.fraction) 0
  exponent := -numeral.fraction.length

def value (numeral : Numeral) : ℚ :=
  Number.signed numeral.negative numeral.decimal.value

def rounded (numeral : Numeral) : Number :=
  Number.ofDecimal numeral.negative numeral.decimal.digits numeral.decimal.exponent

def splitSign : List Char → Bool × List Char
  | '-' :: rest => (true, rest)
  | chars => (false, chars)

def splitPoint? : List Char → Option (List Char)
  | [] => some []
  | '.' :: digit :: digits => some (digit :: digits)
  | _ => none

def read? (text : String) : Option Numeral :=
  let (negative, magnitude) := splitSign text.toList
  let whole := magnitude.takeWhile Char.isDigit
  match splitPoint? (magnitude.dropWhile Char.isDigit) with
  | none => none
  | some fraction =>
      if plain : whole ≠ [] ∧ (whole.head? = some '0' → whole = ['0']) ∧
          whole.all Char.isDigit = true ∧ fraction.all Char.isDigit = true then
        some ⟨negative, whole, fraction, plain.1, plain.2.1, List.all_eq_true.mp plain.2.2.1,
          List.all_eq_true.mp plain.2.2.2⟩
      else none

private theorem splitSign_chars (numeral : Numeral) :
    splitSign numeral.chars = (numeral.negative, numeral.whole ++ pointed numeral.fraction) := by
  unfold chars
  cases numeral.negative with
  | true => rfl
  | false =>
      obtain ⟨first, rest, start⟩ := List.exists_cons_of_ne_nil numeral.nonempty
      have digit : first.isDigit = true := numeral.whole_digits first (by simp [start])
      have unsigned : first ≠ '-' := by
        rintro rfl
        cases digit
      simp only [Bool.false_eq_true, if_false, List.nil_append, start, List.cons_append]
      unfold splitSign
      split
      · rename_i same
        exact absurd (List.cons.inj same).1 unsigned
      · rfl

private theorem splitPoint?_pointed (fraction : List Char) :
    splitPoint? (pointed fraction) = some fraction := by
  cases fraction with
  | nil => rfl
  | cons digit digits => rfl

private theorem takeWhile_pointed (fraction : List Char) :
    (pointed fraction).takeWhile Char.isDigit = [] := by
  cases fraction with
  | nil => rfl
  | cons digit digits => rfl

private theorem dropWhile_pointed (fraction : List Char) :
    (pointed fraction).dropWhile Char.isDigit = pointed fraction := by
  cases fraction with
  | nil => rfl
  | cons digit digits => rfl

private theorem read?_text (numeral : Numeral) : read? numeral.text = some numeral := by
  have taken : (numeral.whole ++ pointed numeral.fraction).takeWhile Char.isDigit =
      numeral.whole := by
    rw [List.takeWhile_append_of_pos numeral.whole_digits, takeWhile_pointed, List.append_nil]
  have left : (numeral.whole ++ pointed numeral.fraction).dropWhile Char.isDigit =
      pointed numeral.fraction := by
    rw [List.dropWhile_append_of_pos numeral.whole_digits, dropWhile_pointed]
  unfold read? text
  simp only [String.toList_ofList, splitSign_chars, taken, left, splitPoint?_pointed]
  exact dif_pos ⟨numeral.nonempty, numeral.leading, List.all_eq_true.mpr numeral.whole_digits,
    List.all_eq_true.mpr numeral.fraction_digits⟩

theorem text_injective {left right : Numeral} (same : left.text = right.text) : left = right := by
  have read := read?_text left
  rw [same, read?_text] at read
  exact (Option.some.inj read).symm

private theorem append_splitSign (chars : List Char) :
    (if (splitSign chars).1 then ['-'] else []) ++ (splitSign chars).2 = chars := by
  unfold splitSign
  split <;> rfl

private theorem pointed_of_splitPoint? {rest fraction : List Char}
    (split : splitPoint? rest = some fraction) : pointed fraction = rest := by
  unfold splitPoint? at split
  split at split <;> cases split <;> rfl

/-- Reading accepts the text of a numeral and nothing else. -/
theorem read?_eq_some_iff {text : String} {numeral : Numeral} :
    read? text = some numeral ↔ numeral.text = text := by
  constructor
  · intro found
    unfold read? at found
    simp only at found
    split at found
    · cases found
    · rename_i fraction rest
      split at found
      · cases found
        unfold Numeral.text chars
        simp only [pointed_of_splitPoint? rest, List.takeWhile_append_dropWhile, append_splitSign,
          String.ofList_toList]
      · cases found
  · rintro rfl
    exact read?_text numeral

end Numeral

namespace Decimal

def scaled (decimal : Decimal) : Nat :=
  decimal.digits * 10 ^ decimal.exponent.toNat

def places (decimal : Decimal) : Nat :=
  (-decimal.exponent).toNat

def padded (places count : Nat) : List Char :=
  List.replicate (places - (Nat.toDigits 10 count).length) '0' ++ Nat.toDigits 10 count

private theorem length_padded {places count : Nat} (some : 0 < places) (fits : count < 10 ^ places) :
    (padded places count).length = places := by
  have short := (Nat.length_toDigits_le_iff (by decide) some).mpr fits
  rw [padded, List.length_append, List.length_replicate]
  omega

private theorem ofDigitChars_padded (places count : Nat) :
    Nat.ofDigitChars 10 (padded places count) 0 = count := by
  rw [padded, Nat.ofDigitChars_append, Nat.ofDigitChars_replicate_zero, Nat.mul_zero,
    Nat.ofDigitChars_ten_toDigits]

private theorem isDigit_padded {places count : Nat} {char : Char} (member : char ∈ padded places count) :
    char.isDigit = true := by
  rcases List.mem_append.mp member with zero | digit
  · rw [List.eq_of_mem_replicate zero]
    rfl
  · exact Nat.isDigit_of_mem_toDigits (by decide) (by decide) digit

private theorem toDigits_of_head_zero (count : Nat) (zero : (Nat.toDigits 10 count).head? = some '0') :
    Nat.toDigits 10 count = ['0'] := by
  induction count using Nat.strong_induction_on with
  | h count ih =>
      rw [Nat.toDigits_eq_if (by decide)] at zero ⊢
      split
      · rename_i small
        rw [if_pos small] at zero
        exact congrArg (fun char => [char]) (Option.some.inj zero)
      · rename_i large
        rw [if_neg large, List.head?_append_of_ne_nil _ Nat.toDigits_ne_nil] at zero
        have front := ih (count / 10) (by omega) zero
        have none := congrArg (fun digits => Nat.ofDigitChars 10 digits 0) front
        rw [Nat.ofDigitChars_ten_toDigits] at none
        have small : count / 10 = 0 := none
        omega

def further (decimal : Decimal) : List Char :=
  if 0 ≤ decimal.exponent then []
  else padded decimal.places (decimal.digits % 10 ^ decimal.places)

private theorem isDigit_further {decimal : Decimal} {char : Char} (member : char ∈ decimal.further) :
    char.isDigit = true := by
  unfold further at member
  split at member
  · cases member
  · exact isDigit_padded member

def numeral (decimal : Decimal) (negative : Bool) : Numeral where
  negative := negative
  whole := Nat.toDigits 10 (decimal.scaled / 10 ^ decimal.places)
  fraction := decimal.further
  nonempty := Nat.toDigits_ne_nil
  leading := toDigits_of_head_zero _
  whole_digits := fun _ member => Nat.isDigit_of_mem_toDigits (by decide) (by decide) member
  fraction_digits := fun _ member => isDigit_further member

section Writing

variable {decimal : Decimal}

private theorem places_of_nonneg (nonneg : 0 ≤ decimal.exponent) : decimal.places = 0 :=
  Int.toNat_eq_zero.mpr (by omega)

private theorem scaled_of_neg (negative : decimal.exponent < 0) : decimal.scaled = decimal.digits := by
  have one : decimal.exponent.toNat = 0 := Int.toNat_eq_zero.mpr (by omega)
  rw [scaled, one, Nat.pow_zero, Nat.mul_one]

private theorem length_further (decimal : Decimal) : decimal.further.length = decimal.places := by
  unfold further
  split
  · rename_i whole
    exact (places_of_nonneg whole).symm
  · rename_i broken
    have some : 0 < decimal.places := by
      unfold places
      omega
    exact length_padded some (Nat.mod_lt _ (Nat.pow_pos (by decide)))

theorem further_ne_nil_iff : decimal.further ≠ [] ↔ decimal.exponent < 0 := by
  rw [← List.length_pos_iff, length_further, places]
  omega

private theorem ofDigitChars_further (decimal : Decimal) :
    Nat.ofDigitChars 10 decimal.further 0 = decimal.scaled % 10 ^ decimal.places := by
  unfold further
  split
  · rename_i whole
    rw [places_of_nonneg whole, Nat.pow_zero, Nat.mod_one]
    rfl
  · rename_i broken
    rw [ofDigitChars_padded, scaled_of_neg (by omega)]

private theorem decimal_numeral (decimal : Decimal) (negative : Bool) :
    (decimal.numeral negative).decimal = ⟨decimal.scaled, -decimal.places⟩ := by
  unfold Numeral.decimal numeral
  simp only [length_further, Nat.ofDigitChars_append, Nat.ofDigitChars_ten_toDigits]
  rw [Nat.ofDigitChars_eq_ofDigitChars_zero, length_further, ofDigitChars_further,
    Nat.div_add_mod]

theorem value_numeral (decimal : Decimal) (negative : Bool) :
    (decimal.numeral negative).decimal.value = decimal.value := by
  have sum : (decimal.exponent.toNat : Int) + -(decimal.places : Int) = decimal.exponent := by
    unfold places
    omega
  have power : (10 : ℚ) ^ decimal.exponent.toNat * 10 ^ (-(decimal.places : Int)) =
      10 ^ decimal.exponent := by
    rw [← zpow_natCast, ← zpow_add₀ (by norm_num), sum]
  rw [decimal_numeral, value, value, scaled, ← power]
  push_cast
  ring

theorem text_numeral (decimal : Decimal) (negative : Bool) :
    (decimal.numeral negative).text = (if negative then "-" else "") ++ decimal.text := by
  have sign : (if negative then "-" else "") = String.ofList (if negative then ['-'] else []) := by
    cases negative <;> rfl
  have digits : decimal.text =
      String.ofList (Nat.toDigits 10 (decimal.scaled / 10 ^ decimal.places) ++
        Numeral.pointed decimal.further) := by
    unfold Decimal.text
    split
    · rename_i whole
      rw [places_of_nonneg whole, Nat.pow_zero, Nat.div_one, further, if_pos whole]
      exact Nat.toString_eq_ofList_toDigits.trans (congrArg _ (List.append_nil _).symm)
    · rename_i broken
      have pointed : Numeral.pointed decimal.further = '.' :: decimal.further :=
        if_neg (further_ne_nil_iff.mpr (by omega))
      rw [pointed, scaled_of_neg (by omega), further, if_neg broken]
      apply String.toList_inj.mp
      simp only [Nat.toString_eq_ofList_toDigits, String.length_ofList, String.toList_append,
        String.toList_ofList, List.append_assoc]
      rfl
  rw [sign, digits, ← String.ofList_append]
  rfl

end Writing

end Decimal
end Quire
