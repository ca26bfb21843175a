import FoodOrdering.Number.Shortest
import Mathlib.Data.Nat.Bitwise

/-!
# The shortest decimal is a number

A double that is not zero is written with digits that do not denote zero: the search starts where
the first digit of the double stands, and the finest grid that it comes to has a point below the
double that is not zero.
-/

namespace FoodOrdering.Number

namespace Shortest

namespace Interval

variable {range : Interval}

/-- The grid has a point that is not zero and not above the value. -/
theorem below_pos {exponent : Int}
    (hcoarse : 0 ≤ exponent → range.denominator * 10 ^ exponent.toNat ≤ range.value)
    (hfine : exponent < 0 → range.denominator ≤ range.value * 10 ^ (-exponent).toNat)
    (hdenominator : 0 < range.denominator) : 0 < range.below exponent := by
  unfold below
  split
  next hexponent =>
    exact Nat.div_pos (hcoarse hexponent)
      (Nat.mul_pos hdenominator (Nat.pow_pos (by decide)))
  next hexponent => exact Nat.div_pos (hfine (by omega)) hdenominator

theorem pow_length_toDigits_le {number : Nat} (h : 0 < number) :
    10 ^ ((Nat.toDigits 10 number).length - 1) ≤ number := by
  by_contra hless
  have hlength : 0 < (Nat.toDigits 10 number).length := Nat.length_toDigits_pos
  by_cases hone : (Nat.toDigits 10 number).length = 1
  · rw [hone] at hless
    exact hless h
  · have hle := (Nat.length_toDigits_le_iff (b := 10) (n := number) (by decide) (by omega)).2
      (Nat.lt_of_not_le hless)
    omega

theorem lt_pow_length_toDigits (number : Nat) : number < 10 ^ (Nat.toDigits 10 number).length :=
  (Nat.length_toDigits_le_iff (by decide) Nat.length_toDigits_pos).1 (Nat.le_refl _)

/-- The first digit of the value stands where the order says, so that every grid from there on has a
point below it. -/
theorem below_order_pos (hvalue : 0 < range.value) (hdenominator : 0 < range.denominator)
    {steps : Nat} (hsteps : 1 ≤ steps) : 0 < range.below (range.order - steps) := by
  unfold order
  split
  next hle =>
    have hquotient : 0 < range.value / range.denominator := Nat.div_pos hle hdenominator
    have hlength : 0 < (Nat.toDigits 10 (range.value / range.denominator)).length :=
      Nat.length_toDigits_pos
    have hfirst := pow_length_toDigits_le hquotient
    generalize (Nat.toDigits 10 (range.value / range.denominator)).length = size at *
    refine below_pos (fun hexponent => ?_) (fun _ => ?_) hdenominator
    · calc range.denominator * 10 ^ ((size : Int) - steps).toNat
        _ ≤ range.denominator * 10 ^ (size - 1) :=
            Nat.mul_le_mul_left _ (Nat.pow_le_pow_right (by decide) (by omega))
        _ ≤ range.denominator * (range.value / range.denominator) :=
            Nat.mul_le_mul_left _ hfirst
        _ ≤ range.value := Nat.mul_div_le ..
    · exact Nat.le_trans hle (Nat.le_mul_of_pos_right _ (Nat.pow_pos (by decide)))
  next hlt =>
    have hlength : 0 < (Nat.toDigits 10 (range.denominator / range.value)).length :=
      Nat.length_toDigits_pos
    have hfirst := lt_pow_length_toDigits (range.denominator / range.value)
    generalize (Nat.toDigits 10 (range.denominator / range.value)).length = size at *
    refine below_pos (fun hexponent => by omega) (fun _ => ?_) hdenominator
    calc range.denominator
      _ ≤ range.value * (range.denominator / range.value + 1) :=
          Nat.le_of_lt (Nat.lt_mul_div_succ _ hvalue)
      _ ≤ range.value * 10 ^ size := Nat.mul_le_mul_left _ hfirst
      _ ≤ range.value * 10 ^ (-(1 - (size : Int) - steps)).toNat :=
          Nat.mul_le_mul_left _ (Nat.pow_le_pow_right (by decide) (by omega))

theorem digits_pos_of_onGrid {exponent : Int} {found : Scientific}
    (h : range.onGrid exponent = some found) : 0 < found.digits := by
  unfold onGrid at h
  dsimp only at h
  generalize (if range.upperNearer _ exponent then range.below exponent + 1 else _) = first at h
  generalize (if range.upperNearer _ exponent then range.below exponent else _) = second at h
  split at h
  next hfirst =>
    cases h
    rw [Bool.and_eq_true, bne_iff_ne] at hfirst
    exact Nat.pos_of_ne_zero hfirst.1
  next =>
    split at h
    next hsecond =>
      cases h
      rw [Bool.and_eq_true, bne_iff_ne] at hsecond
      exact Nat.pos_of_ne_zero hsecond.1
    next => cases h

theorem digits_search_pos {exponent : Int} {steps : Nat}
    (h : 0 < range.below (exponent - steps)) : 0 < (range.search exponent steps).digits := by
  induction steps generalizing exponent with
  | zero => simpa [search] using h
  | succ steps ih =>
      rw [search]
      split
      next found hfound => exact digits_pos_of_onGrid hfound
      next =>
        apply ih
        have hexponent : exponent - 1 - steps = exponent - (steps + 1 : Nat) := by omega
        rwa [hexponent]

end Interval

theorem digits_trimZeros_pos {number : Scientific} (h : 0 < number.digits) (steps : Nat) :
    0 < (trimZeros number steps).digits := by
  induction steps generalizing number with
  | zero => exact h
  | succ steps ih =>
      rw [trimZeros]
      split
      next hzeros =>
        rw [Bool.and_eq_true, beq_iff_eq, bne_iff_ne] at hzeros
        apply ih
        show 0 < number.digits / 10
        omega
      next => exact h

theorem value_interval_pos {m : Nat} (h : 0 < m) (q : Int) (narrow : Bool) :
    0 < (interval m q narrow).value := by
  refine Nat.mul_pos (by omega) ?_
  split
  · exact Nat.pow_pos (by decide)
  · exact Nat.one_pos

theorem denominator_interval_pos (m : Nat) (q : Int) (narrow : Bool) :
    0 < (interval m q narrow).denominator := by
  unfold interval
  dsimp only
  split
  · decide
  · exact Nat.mul_pos (by decide) (Nat.pow_pos (by decide))

end Shortest

/-- Only zero has neither an exponent nor a fraction. -/
theorem toNat_eq_fraction {bits : UInt64} (hsize : bits.toNat < 2 ^ 63)
    (hexponent : ((bits >>> 52) &&& 0x7ff).toNat = 0) :
    (bits &&& 0xfffffffffffff).toNat = bits.toNat := by
  have hshift : (bits >>> 52).toNat = bits.toNat / 2 ^ 52 := by
    rw [UInt64.toNat_shiftRight, Nat.shiftRight_eq_div_pow]
    rfl
  rw [UInt64.toNat_and, hshift, show (0x7ff : UInt64).toNat = 2 ^ 11 - 1 from rfl,
    Nat.and_two_pow_sub_one_eq_mod] at hexponent
  rw [UInt64.toNat_and, show (0xfffffffffffff : UInt64).toNat = 2 ^ 52 - 1 from rfl,
    Nat.and_two_pow_sub_one_eq_mod]
  omega

/-- A double that is not zero is not written as zero. -/
theorem digits_shortest_pos {bits : UInt64} (hsize : bits.toNat < 2 ^ 63) (hpos : bits ≠ 0) :
    0 < (shortest bits).digits := by
  have hbits : 0 < bits.toNat := by
    refine Nat.pos_of_ne_zero fun hzero => hpos ?_
    rw [← UInt64.toNat_inj, hzero]
    rfl
  have hfraction := @toNat_eq_fraction bits hsize
  unfold shortest
  dsimp only
  generalize (bits &&& 0xfffffffffffff).toNat = fraction at *
  generalize ((bits >>> 52) &&& 0x7ff).toNat = biased at *
  have hmantissa : 0 < if biased = 0 then fraction else fraction + 0x10000000000000 := by
    split
    next hzero =>
      rw [hfraction hzero]
      exact hbits
    next => omega
  apply Shortest.digits_trimZeros_pos
  apply Shortest.Interval.digits_search_pos
  rw [show ∀ order : Int, order + 1 - (22 : Nat) = order - (21 : Nat) by omega]
  exact Shortest.Interval.below_order_pos (Shortest.value_interval_pos hmantissa _ _)
    (Shortest.denominator_interval_pos _ _ _) (by decide)

end FoodOrdering.Number
