import Quire.Number.Basic

set_option autoImplicit false

/-!
The number nearest to an exact value. Halfway cases go to the neighbour with an even last bit, and
values past the finite range become infinite.
-/

namespace Quire

/-- The whole number nearest to `num / den`; of two equally near ones, the even one. -/
def nearestEven (num den : Nat) : Nat :=
  let quotient := num / den
  let rest := num % den
  if 2 * rest < den then quotient
  else if den < 2 * rest then quotient + 1
  else quotient + quotient % 2

namespace Number

def ofRatio (negative : Bool) (num den : Nat) : Number :=
  let scaled := num * unitsPerOne
  let shift := (scaled / den).log2 - 52
  ofUnits negative (nearestEven scaled (den * Nat.pow 2 shift) * Nat.pow 2 shift)

def ofInt (value : Int) : Number :=
  ofRatio (value < 0) value.natAbs 1

/-- The number nearest to `digits * 10 ^ exponent`. Exponents that put the value far outside the
range of finite numbers are settled first, without computing the power. -/
def ofDecimal (negative : Bool) (digits : Nat) (exponent : Int) : Number :=
  let width : Int := (Nat.toDigits 10 digits).length
  if digits = 0 then zero negative
  else if exponent + width < -330 then zero negative
  else if 310 < exponent + width then .infinite negative
  else if 0 ≤ exponent then ofRatio negative (digits * Nat.pow 10 exponent.toNat) 1
  else ofRatio negative digits (Nat.pow 10 (-exponent).toNat)

end Number
end Quire
