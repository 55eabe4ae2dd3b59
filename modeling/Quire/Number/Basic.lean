set_option autoImplicit false

/-!
Double-precision numbers.

A finite number is a whole number of *units* of `2 ^ (-1074)`, the smallest positive one. All
arithmetic on numbers happens on these units, in `Nat`, so nothing here is rounded by accident.
-/

namespace Quire

/-- A double-precision number. There is one `nan`: its payload cannot be observed. -/
inductive Number where
  | nan
  | infinite (negative : Bool)
  | finite (negative : Bool) (exponent : Fin 2047) (fraction : Fin (Nat.pow 2 52))
  deriving DecidableEq

namespace Number

def unitsPerOne : Nat := Nat.pow 2 1074

/-- The significant bits of a finite number, with the leading bit that normal numbers leave out. -/
def significand (exponent : Fin 2047) (fraction : Fin (Nat.pow 2 52)) : Nat :=
  if exponent.val = 0 then fraction.val else Nat.pow 2 52 + fraction.val

def spacing (exponent : Fin 2047) : Nat := Nat.pow 2 (exponent.val - 1)

def units (exponent : Fin 2047) (fraction : Fin (Nat.pow 2 52)) : Nat :=
  significand exponent fraction * spacing exponent

def zero (negative : Bool) : Number :=
  .finite negative 0 ⟨0, by decide⟩

/-- The largest number of at most this many units, or infinity past the finite range. -/
def ofUnits (negative : Bool) (count : Nat) : Number :=
  let shift := count.log2 - 52
  if small : count < Nat.pow 2 52 then
    .finite negative 0 ⟨count, small⟩
  else if bounded : shift + 1 < 2047 then
    .finite negative ⟨shift + 1, bounded⟩
      ⟨count / Nat.pow 2 shift % Nat.pow 2 52, Nat.mod_lt _ (by decide)⟩
  else
    .infinite negative

/-- Numeric equality: `nan` differs from itself, and the two zeros are equal. -/
def equal : Number → Number → Bool
  | .infinite negative, .infinite negative' => negative == negative'
  | .finite negative exponent fraction, .finite negative' exponent' fraction' =>
      exponent == exponent' && fraction == fraction' &&
        (negative == negative' || units exponent fraction == 0)
  | _, _ => false

def ofBits (bits : UInt64) : Number :=
  let negative := Nat.pow 2 63 ≤ bits.toNat
  let exponent := bits.toNat / Nat.pow 2 52 % Nat.pow 2 11
  let fraction : Fin (Nat.pow 2 52) := ⟨bits.toNat % Nat.pow 2 52, Nat.mod_lt _ (by decide)⟩
  if bounded : exponent < 2047 then .finite negative ⟨exponent, bounded⟩ fraction
  else if fraction.val = 0 then .infinite negative
  else .nan

/-- The 64-bit pattern of a number; `nan` is written as the quiet pattern without a sign. -/
def toBits : Number → UInt64
  | .nan => 0x7ff8000000000000
  | .infinite negative => UInt64.ofNat (negative.toNat * Nat.pow 2 63 + 2047 * Nat.pow 2 52)
  | .finite negative exponent fraction =>
      UInt64.ofNat (negative.toNat * Nat.pow 2 63 + exponent.val * Nat.pow 2 52 + fraction.val)

def toInt? : Number → Option Int
  | .finite negative exponent fraction =>
      let count := units exponent fraction
      if count % unitsPerOne = 0 then
        let magnitude : Int := Int.ofNat (count / unitsPerOne)
        some (if negative then -magnitude else magnitude)
      else none
  | _ => none

end Number
end Quire
