import FoodOrdering.Text.Decimal
import FoodOrdering.Text.Quoted
import FoodOrdering.Text.Segments

/-!
# Lengths of time

A length of time is written as one or more numbers, each with a unit, and blanks wherever one
likes.  A number may have a fraction if it still comes to a whole count of nanoseconds, or of
seconds for units of an hour and more.  Numbers and sums are bounded by 64 bits.
-/

namespace FoodOrdering

structure Duration where
  seconds : Nat
  nanoseconds : Nat
  deriving DecidableEq, Repr

namespace Duration

def zero : Duration := ⟨0, 0⟩

def nanosecondsPerSecond : Nat := 1000000000

/-- Why a text is no length of time; positions count bytes. -/
inductive Fault where
  | empty
  | numberExpected (position : Nat)
  | invalidCharacter (position : Nat)
  | unknownUnit (unit : List Char) (number : Nat)
  | overflow
  deriving DecidableEq, Repr

def Fault.message : Fault → String
  | .empty => "value was empty"
  | .numberExpected position => "expected number at " ++ Text.ofNat position
  | .invalidCharacter position => "invalid character at " ++ Text.ofNat position
  | .unknownUnit [] number =>
      "time unit needed, for example " ++ Text.ofNat number ++ "sec or " ++ Text.ofNat number ++ "ms"
  | .unknownUnit unit _ =>
      "unknown time unit " ++ Text.quoted (String.ofList unit) ++
        ", supported units: ns, us/µs, ms, sec, min, hours, days, weeks, months, years " ++
        "(and few variations)"
  | .overflow =>
      "number is too large or cannot be represented without a lack of precision " ++
        "(values below 1ns are not supported)"

/-- What one unit comes to. -/
inductive UnitLength where
  | nanoseconds (count : Nat)
  | seconds (count : Nat)
  deriving DecidableEq, Repr

/-- The units and their names. -/
def unitNames : List (List String × UnitLength) :=
  [(["nanos", "nsec", "ns"], .nanoseconds 1),
    (["usec", "us", "µs"], .nanoseconds 1000),
    (["millis", "msec", "ms"], .nanoseconds 1000000),
    (["seconds", "second", "secs", "sec", "s"], .seconds 1),
    (["minutes", "minute", "min", "mins", "m"], .seconds 60),
    (["hours", "hour", "hr", "hrs", "h"], .seconds 3600),
    (["days", "day", "d"], .seconds 86400),
    (["weeks", "week", "wk", "wks", "w"], .seconds 604800),
    (["months", "month", "M"], .seconds 2630016),
    (["years", "year", "yr", "yrs", "y"], .seconds 31557600)]

def unit? (name : List Char) : Option UnitLength :=
  (unitNames.find? fun entry => entry.1.contains (String.ofList name)).map Prod.snd

/-- A number, if 64 bits hold it. -/
def bounded (value : Nat) : Except Fault Nat :=
  if value < UInt64.size then .ok value else .error .overflow

/-- The quotient of a division without remainder. -/
def exactQuotient (value divisor : Nat) : Except Fault Nat :=
  if value % divisor = 0 then .ok (value / divisor) else .error .overflow

/-- Add seconds and nanoseconds, with what is a second or more carried over. -/
def plus (duration : Duration) (seconds nanoseconds : Nat) : Except Fault Duration := do
  let nanoseconds ← bounded (duration.nanoseconds + nanoseconds)
  let carried ← bounded (seconds + nanoseconds / nanosecondsPerSecond)
  let seconds ← bounded (duration.seconds + carried)
  return ⟨seconds, nanoseconds % nanosecondsPerSecond⟩

/-- Digits behind a point, as a quotient. -/
structure Fraction where
  numerator : Nat
  denominator : Nat
  deriving DecidableEq, Repr

/-- Add so many of a unit. -/
def plusWhole (duration : Duration) (number : Nat) : UnitLength → Except Fault Duration
  | .nanoseconds count => do duration.plus 0 (← bounded (number * count))
  | .seconds count => do duration.plus (← bounded (number * count)) 0

/-- Add a fraction of a unit: of a nanosecond there is none, units up to a minute are divided
into nanoseconds and longer ones into seconds. -/
def plusFraction (duration : Duration) (fraction : Fraction) : UnitLength → Except Fault Duration
  | .nanoseconds 1 => .error .overflow
  | .nanoseconds count => do
      let scaled ← bounded (fraction.numerator * count)
      duration.plus 0 (← exactQuotient scaled fraction.denominator)
  | .seconds count => do
      if count ≤ 60 then
        let scaled ← bounded (fraction.numerator * (count * nanosecondsPerSecond))
        duration.plus 0 (← exactQuotient scaled fraction.denominator)
      else
        let scaled ← bounded (fraction.numerator * count)
        duration.plus (← exactQuotient scaled fraction.denominator) 0

/-- Where a reader stands in a text. -/
inductive State where
  /-- A number comes next; `start` is where the search for it began. -/
  | before (start : Nat)
  | number (value : Nat)
  /-- Behind a point; `last` is the position behind what was read of the fraction. -/
  | fraction (value : Nat) (digits : Fraction) (last : Nat)
  /-- In a unit, whose letters stand in reverse. -/
  | unit (value : Nat) (digits : Option Fraction) (letters : List Char)

structure Progress where
  state : State
  sum : Duration
  /-- A number was met. -/
  begun : Bool

def isUnitLetter (c : Char) : Bool :=
  c.isAlpha || c == 'µ'

/-- One more decimal digit. -/
def withDigit (value : Nat) (c : Char) : Except Fault Nat :=
  bounded (10 * value + (c.toNat - 48))

/-- Add a number with its unit to the sum. -/
def finishUnit (sum : Duration) (value : Nat) (digits : Option Fraction) (unit : List Char) :
    Except Fault Duration := do
  match unit? unit with
  | none => .error (.unknownUnit unit value)
  | some unit =>
      let sum ← sum.plusWhole value unit
      match digits with
      | none => .ok sum
      | some digits => sum.plusFraction digits unit

/-- Take one character at a position. -/
def Progress.step (progress : Progress) (position : Nat) (c : Char) : Except Fault Progress :=
  match progress.state with
  | .before start =>
      if c.isDigit then
        .ok { progress with state := .number (c.toNat - 48), begun := true }
      else if Text.isBlank c then .ok progress
      else .error (.numberExpected start)
  | .number value =>
      if c.isDigit then do
        return { progress with state := .number (← withDigit value c) }
      else if Text.isBlank c then .ok progress
      else if isUnitLetter c then .ok { progress with state := .unit value none [c] }
      else if c = '.' then .ok { progress with state := .fraction value ⟨0, 1⟩ position }
      else .error (.invalidCharacter position)
  | .fraction value digits last =>
      let behind := position + c.utf8Size
      if c.isDigit then do
        let denominator ← bounded (digits.denominator * 10)
        let numerator ← withDigit digits.numerator c
        return { progress with state := .fraction value ⟨numerator, denominator⟩ behind }
      else if Text.isBlank c then
        .ok { progress with state := .fraction value digits behind }
      else if isUnitLetter c && digits.denominator != 1 then
        .ok { progress with state := .unit value (some digits) [c] }
      else .error (.invalidCharacter last)
  | .unit value digits letters =>
      if isUnitLetter c then
        .ok { progress with state := .unit value digits (c :: letters) }
      else if c.isDigit then do
        let sum ← finishUnit progress.sum value digits letters.reverse
        return { progress with state := .number (c.toNat - 48), sum }
      else if Text.isBlank c then do
        let sum ← finishUnit progress.sum value digits letters.reverse
        return { progress with state := .before (position + c.utf8Size), sum }
      else .error (.invalidCharacter position)

/-- Take all characters from a position on. -/
def Progress.steps (progress : Progress) (position : Nat) : List Char → Except Fault Progress
  | [] => .ok progress
  | c :: rest => do
      let progress ← progress.step position c
      progress.steps (position + c.utf8Size) rest

/-- The sum at the end of the text. -/
def Progress.finish (progress : Progress) : Except Fault Duration :=
  match progress.state with
  | .before _ => if progress.begun then .ok progress.sum else .error .empty
  | .number value => finishUnit progress.sum value none []
  | .fraction value digits last =>
      if digits.denominator = 1 then .error (.invalidCharacter last)
      else finishUnit progress.sum value (some digits) []
  | .unit value digits letters => finishUnit progress.sum value digits letters.reverse

/-- The length of time that a text denotes. -/
def parse (text : String) : Except Fault Duration := do
  let start : Progress := { state := .before 0, sum := zero, begun := false }
  (← start.steps 0 text.toList).finish

end Duration

end FoodOrdering
