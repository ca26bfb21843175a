import FoodOrdering.Json.Reader.Basic

/-!
# Numbers in JSON

The form of a number is read first: no leading zero, and digits on both sides of the point.  What
it denotes is a whole number of 64 bits or a double.  The double is near the number and need not be
the nearest one: the digits that 64 bits hold are rounded once, and a power of ten rounds them once
more.
-/

namespace FoodOrdering.Json.Reader

/-- The form of a number: digits before the point, after it, and the exponent. -/
structure NumberText where
  negative : Bool
  whole : List Char
  fraction : Option (List Char)
  exponent : Option Int

/-- The digits of an exponent after its letter. -/
def exponentDigits : Reader Int := do
  let sign ← peek
  let negative := sign == some 0x2d
  if sign == some 0x2d || sign == some 0x2b then
    let _ ← next
  let run ← digits
  if run.isEmpty then fail .malformed
  else
    let size : Int := Nat.ofDigitChars 10 run 0
    return if negative then -size else size

def startsNumber (byte : UInt8) : Bool :=
  byte == 0x2d || isDigit byte

/-- The number whose first byte was read: no leading zero, and digits on both sides of the
point. -/
def numberText (first : UInt8) : Reader NumberText := do
  let negative := first == 0x2d
  let run ← digits
  let whole := if negative then run else Char.ofNat first.toNat :: run
  if whole.isEmpty || (whole.head? == some '0' && whole.length != 1) then fail .malformed
  else
    let mut fraction := none
    if (← peek) == some 0x2e then
      let _ ← next
      let run ← digits
      if run.isEmpty then fail .malformed
      fraction := some run
    let mut exponent := none
    let mark ← peek
    if mark == some 0x65 || mark == some 0x45 then
      let _ ← next
      let power ← exponentDigits
      exponent := some power
    return { negative, whole, fraction, exponent }

inductive Numeral where
  /-- A whole number that fits 64 bits, with or without a sign. -/
  | integer (value : Int)
  | real (value : Float)

/-! ## Doubles -/

/-- Take digits into a number as long as 64 bits hold it, and count the digits that are left. -/
def takeDigits (size : UInt64) : List Char → UInt64 × Nat
  | [] => (size, 0)
  | c :: rest =>
      let longer := 10 * size.toNat + (c.toNat - '0'.toNat)
      if h : longer < UInt64.size then takeDigits (.ofNatLT longer h) rest
      else (size, rest.length + 1)

/-- The largest power of ten by which a double is multiplied or divided at once. -/
def largestPower : Nat := 308

def powerOfTen (power : Nat) : Float :=
  OfScientific.ofScientific 1 false power

/-- A double times a power of ten.  A small number is divided by the largest power until the rest of
the exponent is in reach or nothing is left of it. -/
def scale (value : Float) (exponent : Int) : Except Fault Float :=
  if exponent.natAbs ≤ largestPower then
    if exponent < 0 then .ok (value / powerOfTen exponent.natAbs)
    else
      let scaled := value * powerOfTen exponent.natAbs
      if scaled.isInf then .error .malformed else .ok scaled
  else if value == 0.0 then .ok value
  else if exponent < 0 then scale (value / powerOfTen largestPower) (exponent + largestPower)
  else .error .malformed
termination_by exponent.natAbs
decreasing_by
  unfold largestPower at *
  omega

/-- The double as which a number is read.  Digits before the point that are left count for the
exponent, and so do the digits behind it that were taken; a number beyond the doubles is refused. -/
def NumberText.real (number : NumberText) : Except Fault Float := do
  let fraction := number.fraction.getD []
  let (whole, beyond) := takeDigits 0 number.whole
  let (size, unread) := takeDigits whole fraction
  let exponent := number.exponent.getD 0 + beyond + unread - fraction.length
  let value ← scale size.toFloat exponent
  return if number.negative then -value else value

/-- A number without fraction and exponent is whole if 64 bits hold it and it is not `-0`; any
other is read as a double. -/
def NumberText.numeral (number : NumberText) : Except Fault Numeral :=
  let size := Nat.ofDigitChars 10 number.whole 0
  let whole := number.fraction.isNone && number.exponent.isNone
  if whole && !number.negative && number.whole.length ≤ 20 && size < UInt64.size then
    .ok (.integer size)
  else if whole && number.negative && number.whole.length ≤ 20 && 0 < size &&
      size ≤ UInt64.size / 2 then
    .ok (.integer (-size))
  else number.real.map .real

/-- The number whose first byte was read. -/
def numeral (first : UInt8) : Reader Numeral := do
  let number ← numberText first
  ofExcept number.numeral

end FoodOrdering.Json.Reader
