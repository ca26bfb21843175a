/-!
# The shortest decimal that reads back

A finite double is written with the fewest digits that still denote it, and among those with the
digits nearest to it.  The double is decoded into `m * 2 ^ q`; every decimal strictly between the
half-way points to its two neighbours reads back as it, and so do the half-way points themselves
when `m` is even.
-/

namespace FoodOrdering.Number

/-- A positive decimal: `digits` times ten to the `exponent`. -/
structure Scientific where
  digits : Nat
  exponent : Int

namespace Shortest

/-- A positive number as a quotient of natural numbers, with the points half-way to its
neighbours over the same denominator. -/
structure Interval where
  low : Nat
  value : Nat
  high : Nat
  denominator : Nat
  closed : Bool

/-- The interval of a double with mantissa `m` and binary exponent `q`; below a power of two the
lower neighbour is half as far away. -/
def interval (m : Nat) (q : Int) (narrow : Bool) : Interval :=
  let scale := if 0 ≤ q then Nat.pow 2 q.toNat else 1
  let denominator := if 0 ≤ q then 4 else 4 * Nat.pow 2 (-q).toNat
  { low := (if narrow then 4 * m - 1 else 4 * m - 2) * scale
    value := 4 * m * scale
    high := (4 * m + 2) * scale
    denominator := denominator
    closed := m % 2 == 0 }

/-- `number * 10 ^ exponent` over `denominator` lies in the interval. -/
def Interval.contains (range : Interval) (number : Nat) (exponent : Int) : Bool :=
  let left := if 0 ≤ exponent then number * Nat.pow 10 exponent.toNat * range.denominator
    else number * range.denominator
  let right (bound : Nat) := if 0 ≤ exponent then bound else bound * Nat.pow 10 (-exponent).toNat
  if range.closed then right range.low ≤ left && left ≤ right range.high
  else right range.low < left && left < right range.high

/-- The multiple of `10 ^ exponent` just below the value, and its distance to the value in units
of the value's denominator. -/
def Interval.below (range : Interval) (exponent : Int) : Nat :=
  if 0 ≤ exponent then range.value / (range.denominator * Nat.pow 10 exponent.toNat)
  else range.value * Nat.pow 10 (-exponent).toNat / range.denominator

/-- The upper of the two grid points around the value is nearer, or as near and even. -/
def Interval.upperNearer (range : Interval) (lower : Nat) (exponent : Int) : Bool :=
  let unit := if 0 ≤ exponent then range.denominator * Nat.pow 10 exponent.toNat
    else range.denominator
  let value := if 0 ≤ exponent then range.value else range.value * Nat.pow 10 (-exponent).toNat
  let rest := value - lower * unit
  unit < 2 * rest || (2 * rest == unit && lower % 2 == 1)

/-- The grid point of step `10 ^ exponent` that reads back and lies nearest to the value. -/
def Interval.onGrid (range : Interval) (exponent : Int) : Option Scientific :=
  let lower := range.below exponent
  let first := if range.upperNearer lower exponent then lower + 1 else lower
  let second := if range.upperNearer lower exponent then lower else lower + 1
  if first != 0 && range.contains first exponent then some ⟨first, exponent⟩
  else if second != 0 && range.contains second exponent then some ⟨second, exponent⟩
  else none

/-- Search grids from coarse to fine. -/
def Interval.search (range : Interval) (exponent : Int) : Nat → Scientific
  | 0 => ⟨range.below exponent, exponent⟩
  | steps + 1 =>
      match range.onGrid exponent with
      | some found => found
      | none => range.search (exponent - 1) steps

/-- The number of decimal digits of the integer part, less one for each leading zero. -/
def Interval.order (range : Interval) : Int :=
  if range.denominator ≤ range.value then
    (Nat.toDigits 10 (range.value / range.denominator)).length
  else
    1 - (Nat.toDigits 10 (range.denominator / range.value)).length

/-- Drop the zeros at the end of the digits. -/
def trimZeros (number : Scientific) : Nat → Scientific
  | 0 => number
  | steps + 1 =>
      if number.digits % 10 == 0 && number.digits != 0 then
        trimZeros ⟨number.digits / 10, number.exponent + 1⟩ steps
      else number

end Shortest

/-- The shortest decimal of a positive finite double, given by its bits. -/
def shortest (bits : UInt64) : Scientific :=
  let fraction := (bits &&& 0xfffffffffffff).toNat
  let biased := ((bits >>> 52) &&& 0x7ff).toNat
  let m := if biased = 0 then fraction else fraction + 0x10000000000000
  let q : Int := if biased = 0 then -1074 else (biased : Int) - 1075
  let range := Shortest.interval m q (fraction == 0 && 1 < biased)
  Shortest.trimZeros (range.search (range.order + 1) 22) 22

end FoodOrdering.Number
