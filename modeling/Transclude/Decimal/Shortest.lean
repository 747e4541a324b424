/-!
# Shortest decimals

A binary floating-point number stands for all real numbers that round to it. Among the decimals in
that interval one with the fewest digits is chosen, and of those the one nearest to the number; if
two are equally near, the even one.

All comparisons are made in whole numbers. A number is a mantissa times a power of two; its
interval reaches half a step up and half a step down, and only a quarter of a step down at the
lowest mantissa, where the steps below are half as wide. The ends belong to the interval when the
mantissa is even.

## Main definitions

* `BinaryNumber` — a mantissa times a power of two
* `Decimal` — a whole number times a power of ten
* `BinaryNumber.shortest` — the shortest decimal that stands for a number
-/

namespace Transclude

/-- A positive number, `mantissa * 2 ^ exponent`. -/
structure BinaryNumber where
  mantissa : Nat
  exponent : Int
  /-- Whether the numbers just below are half as far apart as those above. -/
  narrowBelow : Bool
  deriving DecidableEq

/-- A positive number, `digits * 10 ^ exponent`. -/
structure Decimal where
  digits : Nat
  exponent : Int
  deriving DecidableEq

namespace BinaryNumber

/-- The exponent of the least power of ten that is greater than the number. -/
def magnitude (x : BinaryNumber) : Int :=
  let num := x.mantissa <<< x.exponent.toNat
  let den := 1 <<< (-x.exponent).toNat
  if den ≤ num then (Nat.toDigits 10 (num / den)).length
  else
    match (List.range 400).find? fun k => den ≤ num * Nat.pow 10 (k + 1) with
    | some zeros => -zeros
    | none => 0

/-- The decimal nearest to the number among those in its interval, of the two on either side of
the number that are whole multiples of `10 ^ g`. -/
def nearestOnGrid? (x : BinaryNumber) (g : Int) : Option Decimal :=
  -- Places are counted in quarters of a step, so that the ends of the interval are whole.
  let decimalUnit := Nat.pow 10 g.toNat <<< (2 - x.exponent).toNat
  let binaryUnit := Nat.pow 10 (-g).toNat <<< (x.exponent - 2).toNat
  let low := (4 * x.mantissa - if x.narrowBelow then 1 else 2) * binaryUnit
  let value := 4 * x.mantissa * binaryUnit
  let high := (4 * x.mantissa + 2) * binaryUnit
  let inside (d : Nat) : Bool :=
    let place := d * decimalUnit
    if x.mantissa % 2 = 0 then low ≤ place && place ≤ high else low < place && place < high
  let below := value / decimalUnit
  let above := below + 1
  let distanceBelow := value - below * decimalUnit
  let distanceAbove := above * decimalUnit - value
  let preferBelow :=
    distanceBelow < distanceAbove || (distanceBelow = distanceAbove && below % 2 = 0)
  match below ≠ 0 && inside below, inside above with
  | true, true => some ⟨if preferBelow then below else above, g⟩
  | true, false => some ⟨below, g⟩
  | false, true => some ⟨above, g⟩
  | false, false => none

/-- No number needs more digits than this. -/
def maxShortestDigits : Nat := 17

/-- The shortest decimal that stands for the number. -/
def shortest (x : BinaryNumber) : Decimal :=
  let magnitude := x.magnitude
  let found := (List.range maxShortestDigits).findSome? fun n =>
    x.nearestOnGrid? (magnitude - (n + 1 : Nat))
  found.getD ⟨x.mantissa, x.exponent⟩

end BinaryNumber

end Transclude
