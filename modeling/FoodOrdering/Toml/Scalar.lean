import FoodOrdering.Toml.Value

/-!
# Numbers, truth values and moments

A value that stands between neither quotation marks nor brackets is one run of letters, digits and
a few marks; a moment may contain one space.  Underscores may stand between digits, and a decimal
number has no leading zero.
-/

/-!
## Decimal fractions as doubles

A decimal fraction is read as the double nearest to it, half-way cases going to the even
neighbour.  Digits beyond the eight hundredth cannot change the nearest double once it is known
whether one of them is not zero, so a long fraction costs no more than a short one.
-/

namespace FoodOrdering.Number

/-- A decimal fraction: `digits` times ten to the `exponent`. -/
structure Decimal where
  negative : Bool
  digits : List Char
  exponent : Int

namespace Decimal

/-- As many digits as can decide a rounding, the last one standing for all that were cut. -/
def significantDigits : Nat := 800

/-- The double nearest to the size of the fraction, infinite when it is out of range. -/
def magnitude (decimal : Decimal) : Float :=
  let digits := decimal.digits.dropWhile (· == '0')
  let kept := digits.take significantDigits
  let cut := digits.drop significantDigits
  let mantissa := Nat.ofDigitChars 10 kept 0
  let exponent := decimal.exponent + cut.length
  let mantissa :=
    if cut.any (· != '0') then 10 * mantissa + 1 else 10 * mantissa
  let exponent := exponent - 1
  if digits.isEmpty then 0.0
  else if 400 < exponent + kept.length then 1.0 / 0.0
  else if exponent + kept.length < -400 then 0.0
  else if 0 ≤ exponent then Float.ofScientific mantissa false exponent.toNat
  else Float.ofScientific mantissa true (-exponent).toNat

/-- The double nearest to the fraction. -/
def toFloat (decimal : Decimal) : Float :=
  if decimal.negative then -decimal.magnitude else decimal.magnitude

end Decimal

end FoodOrdering.Number

/-! ## Numbers -/

namespace FoodOrdering.Toml

/-- Digits in which every underscore has a digit on both sides, without the underscores. -/
def plainDigits (isDigit : Char → Bool) : List Char → Option (List Char)
  | [] => none
  | [c] => if isDigit c then some [c] else none
  | c :: '_' :: rest =>
      if isDigit c then (plainDigits isDigit rest).map (c :: ·) else none
  | c :: rest => if isDigit c then (plainDigits isDigit rest).map (c :: ·) else none

def isHexDigit (c : Char) : Bool :=
  c.isDigit || ('a' ≤ c && c ≤ 'f') || ('A' ≤ c && c ≤ 'F')

def isOctalDigit (c : Char) : Bool := '0' ≤ c && c ≤ '7'

def isBinaryDigit (c : Char) : Bool := c == '0' || c == '1'

def digitValue (c : Char) : Nat :=
  if c.isDigit then c.toNat - 48
  else if 'a' ≤ c then c.toNat - 87
  else c.toNat - 55

/-- The number that digits of a base denote. -/
def ofDigits (base : Nat) (digits : List Char) : Nat :=
  digits.foldl (fun value c => value * base + digitValue c) 0

/-- How many words of 128 bits there are. -/
def wordCount : Nat := UInt64.size * UInt64.size

/-- A whole number is kept if 128 bits hold it, with or without a sign. -/
def ofInt (value : Int) : Toml :=
  if -((wordCount / 2 : Nat) : Int) ≤ value ∧ value < wordCount then .integer value else .beyond

/-- Digits of a decimal number: no leading zero. -/
def decimalDigits (text : List Char) : Option (List Char) := do
  let digits ← plainDigits Char.isDigit text
  if digits.head? == some '0' && digits.length != 1 then none else some digits

/-- Sign and rest. -/
def splitSign : List Char → Bool × List Char
  | '+' :: rest => (false, rest)
  | '-' :: rest => (true, rest)
  | rest => (false, rest)

def signed (negative : Bool) (value : Nat) : Int :=
  if negative then -(value : Int) else value

def integer? (text : List Char) : Option Toml :=
  match text with
  | '0' :: 'x' :: rest => do return ofInt (ofDigits 16 (← plainDigits isHexDigit rest))
  | '0' :: 'o' :: rest => do return ofInt (ofDigits 8 (← plainDigits isOctalDigit rest))
  | '0' :: 'b' :: rest => do return ofInt (ofDigits 2 (← plainDigits isBinaryDigit rest))
  | _ => do
      let (negative, rest) := splitSign text
      return ofInt (signed negative (ofDigits 10 (← decimalDigits rest)))

/-- The exponent behind its letter. -/
def exponent? (text : List Char) : Option Int := do
  let (negative, rest) := splitSign text
  return signed negative (ofDigits 10 (← plainDigits Char.isDigit rest))

def isExponentMark (c : Char) : Bool := c == 'e' || c == 'E'

/-- A number with a fraction or an exponent, kept if it is within the range of doubles. -/
def real? (text : List Char) : Option Toml := do
  let (negative, rest) := splitSign text
  if rest = ['i', 'n', 'f'] then
    return .real (if negative then -1.0 / 0.0 else 1.0 / 0.0)
  else if rest = ['n', 'a', 'n'] then return .real (0.0 / 0.0)
  else
    let mantissa := rest.takeWhile fun c => !isExponentMark c
    let power := (rest.dropWhile fun c => !isExponentMark c).drop 1
    let hasPower := mantissa.length != rest.length
    let whole := mantissa.takeWhile (· != '.')
    let fraction := (mantissa.dropWhile (· != '.')).drop 1
    let hasFraction := whole.length != mantissa.length
    if !hasPower && !hasFraction then none
    else
      let whole ← decimalDigits whole
      let fraction ← if hasFraction then plainDigits Char.isDigit fraction else some []
      let exponent ← if hasPower then exponent? power else some 0
      let value :=
        Number.Decimal.toFloat
          { negative, digits := whole ++ fraction, exponent := exponent - fraction.length }
      return if value.isInf then .beyond else .real value

/-! ## Moments -/

/-- A number of exactly `count` digits at the front, and what follows. -/
def fixedDigits (count : Nat) (text : List Char) : Option (Nat × List Char) :=
  let digits := text.take count
  if digits.length = count ∧ digits.all Char.isDigit then
    some (ofDigits 10 digits, text.drop count)
  else none

def mark (c : Char) : List Char → Option (List Char)
  | [] => none
  | first :: rest => if first = c then some rest else none

def isLeapYear (year : Nat) : Bool :=
  year % 4 == 0 && (year % 100 != 0 || year % 400 == 0)

def daysOf (year month : Nat) : Nat :=
  if month = 2 then (if isLeapYear year then 29 else 28)
  else if month = 4 ∨ month = 6 ∨ month = 9 ∨ month = 11 then 30
  else 31

/-- What follows a date at the front. -/
def afterDate (text : List Char) : Option (List Char) := do
  let (year, text) ← fixedDigits 4 text
  let (month, text) ← fixedDigits 2 (← mark '-' text)
  let (day, text) ← fixedDigits 2 (← mark '-' text)
  if 1 ≤ month ∧ month ≤ 12 ∧ 1 ≤ day ∧ day ≤ daysOf year month then some text else none

/-- What follows the fraction of a second, if there is one. -/
def afterFraction (text : List Char) : Option (List Char) :=
  match text with
  | '.' :: rest =>
      if (rest.takeWhile Char.isDigit).isEmpty then none else some (rest.dropWhile Char.isDigit)
  | _ => some text

/-- What follows a time at the front; its seconds may be left out. -/
def afterTime (text : List Char) : Option (List Char) := do
  let (hour, text) ← fixedDigits 2 text
  let (minute, text) ← fixedDigits 2 (← mark ':' text)
  if 23 < hour ∨ 59 < minute then none
  else
    match text with
    | ':' :: rest =>
        let (second, rest) ← fixedDigits 2 rest
        if 60 < second then none else afterFraction rest
    | _ => some text

/-- An offset from universal time, or nothing. -/
def isOffset (text : List Char) : Bool :=
  match text with
  | [] => true
  | ['Z'] => true
  | ['z'] => true
  | sign :: rest =>
      (sign == '+' || sign == '-') &&
        (match fixedDigits 2 rest with
        | none => false
        | some (hours, rest) =>
            match (mark ':' rest).bind (fixedDigits 2) with
            | some (minutes, []) => hours ≤ 23 && minutes ≤ 59
            | _ => false)

/-- A date, a time, or a date and a time with or without an offset. -/
def isMoment (text : List Char) : Bool :=
  match afterDate text with
  | some [] => true
  | some (separator :: rest) =>
      (separator == 'T' || separator == 't' || separator == ' ') &&
        (match afterTime rest with
        | some offset => isOffset offset
        | none => false)
  | none => afterTime text == some []

/-- The value that a run of letters, digits and marks denotes. -/
def scalar? (text : List Char) : Option Toml :=
  if text = ['t', 'r', 'u', 'e'] then some (.bool true)
  else if text = ['f', 'a', 'l', 's', 'e'] then some (.bool false)
  else if isMoment text then some (.moment (String.ofList text))
  else
    match integer? text with
    | some value => some value
    | none => real? text

end FoodOrdering.Toml
