/-!
# Base64 for URLs, without padding

Three bytes are four characters of a 64-letter alphabet, and one or two bytes at the end are two
or three characters.  Bits that a last character has to spare must be zero, so that a run of bytes
has one written form.
-/

namespace FoodOrdering.Base64Url

/-- The letter for a number below sixty-four. -/
def letter (value : Nat) : Char :=
  if value < 26 then Char.ofNat (value + 65)
  else if value < 52 then Char.ofNat (value + 71)
  else if value < 62 then Char.ofNat (value - 4)
  else if value = 62 then '-'
  else '_'

/-- The number of a letter. -/
def value? (c : Char) : Option Nat :=
  if 'A' ≤ c ∧ c ≤ 'Z' then some (c.toNat - 65)
  else if 'a' ≤ c ∧ c ≤ 'z' then some (c.toNat - 71)
  else if '0' ≤ c ∧ c ≤ '9' then some (c.toNat + 4)
  else if c = '-' then some 62
  else if c = '_' then some 63
  else none

def encode : List UInt8 → List Char
  | [] => []
  | [a] => [letter (a.toNat / 4), letter (a.toNat % 4 * 16)]
  | [a, b] =>
      [letter (a.toNat / 4), letter (a.toNat % 4 * 16 + b.toNat / 16), letter (b.toNat % 16 * 4)]
  | a :: b :: c :: rest =>
      letter (a.toNat / 4) :: letter (a.toNat % 4 * 16 + b.toNat / 16) ::
        letter (b.toNat % 16 * 4 + c.toNat / 64) :: letter (c.toNat % 64) :: encode rest

/-- Four letters as three bytes. -/
def group (p q r s : Nat) : List UInt8 :=
  [UInt8.ofNat (p * 4 + q / 16), UInt8.ofNat (q % 16 * 16 + r / 4), UInt8.ofNat (r % 4 * 64 + s)]

def decode : List Char → Option (List UInt8)
  | [] => some []
  | [_] => none
  | [a, b] => do
      let p ← value? a
      let q ← value? b
      if q % 16 = 0 then some [UInt8.ofNat (p * 4 + q / 16)] else none
  | [a, b, c] => do
      let p ← value? a
      let q ← value? b
      let r ← value? c
      if r % 4 = 0 then
        some [UInt8.ofNat (p * 4 + q / 16), UInt8.ofNat (q % 16 * 16 + r / 4)]
      else none
  | a :: b :: c :: d :: rest => do
      let p ← value? a
      let q ← value? b
      let r ← value? c
      let s ← value? d
      let tail ← decode rest
      some (group p q r s ++ tail)

end FoodOrdering.Base64Url
