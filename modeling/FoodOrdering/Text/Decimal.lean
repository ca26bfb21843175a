/-!
# Decimal integers

Integers in texts are ASCII digits with an optional sign, any number of leading zeros and nothing
else.  Main statement: reading back what was written gives the number.
-/

namespace FoodOrdering.Text

/-- The number that a non-empty run of ASCII digits denotes. -/
def readNat? (digits : List Char) : Option Nat :=
  if digits.isEmpty then none
  else if digits.all Char.isDigit then some (Nat.ofDigitChars 10 digits 0)
  else none

/-- Digits with an optional sign. -/
def readInt? : List Char → Option Int
  | '+' :: digits => (readNat? digits).map Int.ofNat
  | '-' :: digits => (readNat? digits).map fun n => -(n : Int)
  | digits => (readNat? digits).map Int.ofNat

/-- Digits with an optional plus sign, for a number below `bound`. -/
def readBelow? (bound : Nat) (text : String) : Option Nat :=
  let digits :=
    match text.toList with
    | '+' :: digits => digits
    | digits => digits
  (readNat? digits).filter (· < bound)

/-- A 64-bit word with this value, if there is one. -/
def int64OfInt? (value : Int) : Option Int64 :=
  if Int64.minValue.toInt ≤ value ∧ value ≤ Int64.maxValue.toInt then some (Int64.ofInt value)
  else none

/-- Digits with an optional sign, for a number that fits 64 bits. -/
def readInt64? (text : String) : Option Int64 :=
  (readInt? text.toList).bind int64OfInt?

/-- The digits of a number, the first of them not zero unless it is the only one. -/
def writeNat (value : Nat) : List Char :=
  Nat.toDigits 10 value

/-- The digits of a number after a minus sign if it is negative. -/
def writeInt : Int → List Char
  | .ofNat value => writeNat value
  | .negSucc value => '-' :: writeNat (value + 1)

/-- The decimal text of a 64-bit word. -/
def ofInt64 (value : Int64) : String :=
  String.ofList (writeInt value.toInt)

/-- The decimal text of a natural number. -/
def ofNat (value : Nat) : String :=
  String.ofList (writeNat value)

theorem int64OfInt?_toInt (value : Int64) : int64OfInt? value.toInt = some value := by
  unfold int64OfInt?
  rw [if_pos ⟨value.minValue_le_toInt, value.toInt_le⟩, Int64.ofInt_toInt]

theorem toInt_of_int64OfInt? {value : Int} {word : Int64} (h : int64OfInt? value = some word) :
    word.toInt = value := by
  unfold int64OfInt? at h
  split at h
  next hb =>
    cases h
    rw [Int64.toInt_minValue, Int64.toInt_maxValue] at hb
    exact Int64.toInt_ofInt_of_le hb.1 (Int.lt_of_le_sub_one hb.2)
  next => cases h

theorem readNat?_writeNat (value : Nat) : readNat? (writeNat value) = some value := by
  have hdigits : (Nat.toDigits 10 value).all Char.isDigit = true :=
    List.all_eq_true.2 fun c hc => Nat.isDigit_of_mem_toDigits (by decide) (by decide) hc
  simp [readNat?, writeNat, hdigits, Nat.toDigits_ne_nil]

theorem isDigit_of_mem_writeNat {value : Nat} {c : Char} (h : c ∈ writeNat value) :
    c.isDigit = true :=
  Nat.isDigit_of_mem_toDigits (by decide) (by decide) h

theorem readInt?_of_digit {c : Char} {rest : List Char} (h : c.isDigit = true) :
    readInt? (c :: rest) = (readNat? (c :: rest)).map Int.ofNat := by
  have hplus : c ≠ '+' := by rintro rfl; exact absurd h (by decide)
  have hminus : c ≠ '-' := by rintro rfl; exact absurd h (by decide)
  unfold readInt?
  split <;> simp_all

theorem readInt?_writeInt (value : Int) : readInt? (writeInt value) = some value := by
  cases value with
  | ofNat n =>
      have hread := readNat?_writeNat n
      have hdigit := @isDigit_of_mem_writeNat n
      cases hw : writeNat n with
      | nil => exact absurd hw Nat.toDigits_ne_nil
      | cons c rest =>
          rw [hw] at hread hdigit
          simp [writeInt, hw, readInt?_of_digit (hdigit (List.mem_cons_self ..)), hread]
  | negSucc n => simp [writeInt, readInt?, readNat?_writeNat]; omega

/-- Reading the text of a 64-bit word gives the word. -/
theorem readInt64?_ofInt64 (value : Int64) : readInt64? (ofInt64 value) = some value := by
  simp [readInt64?, ofInt64, readInt?_writeInt, int64OfInt?_toInt]

end FoodOrdering.Text
