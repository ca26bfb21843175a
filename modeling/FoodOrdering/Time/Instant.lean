import FoodOrdering.Text.Decimal

/-!
# Instants

Points of time in nanoseconds, and their RFC 3339 text in universal time.  A fraction of a second
is written with three, six or nine digits, as few as it needs.
-/

namespace FoodOrdering

/-- Nanoseconds since the beginning of 1970. -/
structure Instant where
  nanoseconds : Int
  deriving DecidableEq, Repr

namespace Instant

def nanosecondsPerSecond : Nat := 1000000000

/-- The second that an instant lies in. -/
def seconds (instant : Instant) : Int :=
  instant.nanoseconds.fdiv nanosecondsPerSecond

/-- The instant at the beginning of a second. -/
def ofSeconds (seconds : Int) : Instant :=
  ⟨seconds * nanosecondsPerSecond⟩

structure Date where
  year : Int
  month : Nat
  day : Nat
  deriving DecidableEq, Repr

/-- The date of a day counted from the first of January 1970.  Years are counted from March, so
that a leap day ends a year, and in cycles of 400 years, which have 146097 days. -/
def Date.ofDay (day : Int) : Date :=
  let shifted := day + 719468
  let cycle := shifted.fdiv 146097
  let dayOfCycle := (shifted.fmod 146097).toNat
  let yearOfCycle :=
    (dayOfCycle - dayOfCycle / 1460 + dayOfCycle / 36524 - dayOfCycle / 146096) / 365
  let dayOfYear :=
    dayOfCycle - (365 * yearOfCycle + yearOfCycle / 4 - yearOfCycle / 100)
  let monthFromMarch := (5 * dayOfYear + 2) / 153
  let day := dayOfYear - (153 * monthFromMarch + 2) / 5 + 1
  let month := if monthFromMarch < 10 then monthFromMarch + 3 else monthFromMarch - 9
  let year := (yearOfCycle : Int) + cycle * 400
  { year := if month ≤ 2 then year + 1 else year, month, day }

/-- Digits with zeros in front up to a width. -/
def padded (width value : Nat) : String :=
  let digits := Text.writeNat value
  String.ofList (List.replicate (width - digits.length) '0' ++ digits)

/-- The fraction of a second behind its point, empty for a whole second. -/
def fraction (nanoseconds : Nat) : String :=
  if nanoseconds = 0 then ""
  else if nanoseconds % 1000000 = 0 then "." ++ padded 3 (nanoseconds / 1000000)
  else if nanoseconds % 1000 = 0 then "." ++ padded 6 (nanoseconds / 1000)
  else "." ++ padded 9 nanoseconds

/-- Date and time without a mark of the zone. -/
def dateTime (instant : Instant) : String :=
  let second := (instant.seconds.fmod 86400).toNat
  let date := Date.ofDay (instant.seconds.fdiv 86400)
  let nanoseconds := (instant.nanoseconds.fmod nanosecondsPerSecond).toNat
  padded 4 date.year.toNat ++ "-" ++ padded 2 date.month ++ "-" ++ padded 2 date.day ++ "T" ++
    padded 2 (second / 3600) ++ ":" ++ padded 2 (second / 60 % 60) ++ ":" ++
    padded 2 (second % 60) ++ fraction nanoseconds

/-- The text that ends in the letter for universal time. -/
def zulu (instant : Instant) : String :=
  instant.dateTime ++ "Z"

/-- The text that ends in a zero offset. -/
def zeroOffset (instant : Instant) : String :=
  instant.dateTime ++ "+00:00"

end Instant

end FoodOrdering
