import Quire.Number.Basic

set_option autoImplicit false

/-!
Decimal text of numbers: the fewest digits that read back as the same number, written without an
exponent.

A decimal reads back as a number exactly when it lies in the number's rounding interval. The digits
are therefore found by laying coarser to finer decimal grids over that interval: the first grid with
a point inside gives the fewest digits.
-/

namespace Quire

structure Decimal where
  digits : Nat
  exponent : Int
  deriving DecidableEq

def Decimal.text (decimal : Decimal) : String :=
  if 0 ≤ decimal.exponent then
    toString (decimal.digits * Nat.pow 10 decimal.exponent.toNat)
  else
    let places := (-decimal.exponent).toNat
    let fraction := toString (decimal.digits % Nat.pow 10 places)
    toString (decimal.digits / Nat.pow 10 places) ++ "." ++
      String.ofList (List.replicate (places - fraction.length) '0') ++ fraction

/-- The values that round to one number, around that number. All three are counted in quarters of
a unit, so that the halfway points are whole. The ends belong to the interval if it is closed. -/
structure RoundingInterval where
  lower : Nat
  middle : Nat
  upper : Nat
  closed : Bool

namespace RoundingInterval

def quartersPerOne : Nat := 4 * Number.unitsPerOne

/-- The interval of a finite number other than zero. Just above a power of two the gap below is
half the gap above. A halfway point rounds to the even neighbour, so the interval is closed when
the number is even. -/
def ofFinite (exponent : Fin 2047) (fraction : Fin (Nat.pow 2 52)) : RoundingInterval :=
  let middle := 4 * Number.units exponent fraction
  let gap := Number.spacing exponent
  { lower := middle - (if fraction.val = 0 ∧ 1 < exponent.val then gap else 2 * gap)
    middle := middle
    upper := middle + 2 * gap
    closed := fraction.val % 2 == 0 }

def gridStep (exponent : Int) : Nat × Nat :=
  if 0 ≤ exponent then (Nat.pow 10 exponent.toNat * quartersPerOne, 1)
  else (quartersPerOne, Nat.pow 10 (-exponent).toNat)

def contains (interval : RoundingInterval) (num den : Nat) : Bool :=
  let low := interval.lower * den
  let high := interval.upper * den
  if interval.closed then low ≤ num && num ≤ high else low < num && num < high

/-- The grid point in the interval that is nearest to the middle; of two equally near ones, the
larger. -/
def nearest? (interval : RoundingInterval) (exponent : Int) : Option Decimal :=
  let (num, den) := gridStep exponent
  let below := interval.middle * den / num
  let fits (digits : Nat) : Bool := interval.contains (digits * num) den
  let closerBelow : Bool := 2 * interval.middle * den < (2 * below + 1) * num
  if fits below && (closerBelow || !fits (below + 1)) then some ⟨below, exponent⟩
  else if fits (below + 1) then some ⟨below + 1, exponent⟩
  else none

/-- Tries `count` grids, each ten times finer than the one before; the last resort is the middle
itself, which every number reaches on the grid of step `10 ^ (-1076)`. -/
def firstFit (interval : RoundingInterval) : Nat → Int → Decimal
  | 0, _ => ⟨interval.middle * Nat.pow 5 1076, -1076⟩
  | count + 1, exponent =>
      match interval.nearest? exponent with
      | some decimal => decimal
      | none => interval.firstFit count (exponent - 1)

def coarsest : Int := 309

def shortest (interval : RoundingInterval) : Decimal :=
  interval.firstFit 1385 coarsest

end RoundingInterval

namespace Number

def shortest (exponent : Fin 2047) (fraction : Fin (Nat.pow 2 52)) : Decimal :=
  if units exponent fraction = 0 then ⟨0, 0⟩
  else (RoundingInterval.ofFinite exponent fraction).shortest

def positional : Number → String
  | .nan => "NaN"
  | .infinite negative => if negative then "-inf" else "inf"
  | .finite negative exponent fraction =>
      (if negative then "-" else "") ++ (shortest exponent fraction).text

def integerBound : Nat := Nat.pow 10 15

/-- The text of a number. Small whole numbers are written as integers, which leaves zero without a
sign. -/
def text (number : Number) : String :=
  match number.toInt? with
  | some value => if value.natAbs < integerBound then toString value else number.positional
  | none => number.positional

end Number
end Quire
