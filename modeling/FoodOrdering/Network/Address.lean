import FoodOrdering.Text.Decimal

/-!
# Internet addresses

Addresses of four bytes and of eight 16-bit groups, and their texts.  A text of the second kind
may leave out one run of zero groups, and may end in the text of the first kind for its last two
groups.
-/

namespace FoodOrdering

structure IPv4 where
  a : UInt8
  b : UInt8
  c : UInt8
  d : UInt8
  deriving DecidableEq, Repr

structure IPv6 where
  groups : Vector UInt16 8
  deriving DecidableEq, Repr

inductive Address where
  | v4 (address : IPv4)
  | v6 (address : IPv6)
  deriving DecidableEq, Repr

namespace Address

/-! ## Written form -/

def hexChars (group : UInt16) : List Char :=
  Nat.toDigits 16 group.toNat

end Address

namespace IPv4

def chars (address : IPv4) : List Char :=
  Text.writeNat address.a.toNat ++ '.' :: (Text.writeNat address.b.toNat ++
    '.' :: (Text.writeNat address.c.toNat ++ '.' :: Text.writeNat address.d.toNat))

/-- The two groups that hold the four bytes. -/
def groups (address : IPv4) : List UInt16 :=
  [address.a.toUInt16 * 256 + address.b.toUInt16, address.c.toUInt16 * 256 + address.d.toUInt16]

end IPv4

namespace IPv6

/-- The address of four bytes that an address in the mapped range stands for. -/
def mapped? (address : IPv6) : Option IPv4 :=
  match address.groups.toList with
  | [0, 0, 0, 0, 0, 0xffff, high, low] =>
      some ⟨(high >>> 8).toUInt8, high.toUInt8, (low >>> 8).toUInt8, low.toUInt8⟩
  | _ => none

/-- The mapped form of an address of four bytes. -/
def ofIPv4 (address : IPv4) : IPv6 :=
  ⟨#v[0, 0, 0, 0, 0, 0xffff,
    address.a.toUInt16 * 256 + address.b.toUInt16, address.c.toUInt16 * 256 + address.d.toUInt16]⟩

/-- Groups with colons between them. -/
def joinGroups : List UInt16 → List Char
  | [] => []
  | [group] => Address.hexChars group
  | group :: rest => Address.hexChars group ++ ':' :: joinGroups rest

/-- Start and length of a run. -/
structure Run where
  start : Nat
  length : Nat

/-- The first of the longest runs of zero groups, with the run that is open at `index`. -/
def longestZeros (index : Nat) (current longest : Run) : List UInt16 → Run
  | [] => longest
  | group :: rest =>
      if group = 0 then
        let current :=
          if current.length = 0 then ⟨index, 1⟩ else ⟨current.start, current.length + 1⟩
        longestZeros (index + 1) current
          (if longest.length < current.length then current else longest) rest
      else longestZeros (index + 1) ⟨0, 0⟩ longest rest

def chars (address : IPv6) : List Char :=
  match address.mapped? with
  | some inner => "::ffff:".toList ++ inner.chars
  | none =>
      let groups := address.groups.toList
      let zeros := longestZeros 0 ⟨0, 0⟩ ⟨0, 0⟩ groups
      if 1 < zeros.length then
        joinGroups (groups.take zeros.start) ++ ':' :: ':' ::
          joinGroups (groups.drop (zeros.start + zeros.length))
      else joinGroups groups

end IPv6

namespace Address

def toText : Address → String
  | .v4 address => String.ofList address.chars
  | .v6 address => String.ofList address.chars

/-! ## Reading -/

def hexDigit? (c : Char) : Option Nat :=
  if '0' ≤ c ∧ c ≤ '9' then some (c.toNat - 48)
  else if 'a' ≤ c ∧ c ≤ 'f' then some (c.toNat - 87)
  else if 'A' ≤ c ∧ c ≤ 'F' then some (c.toNat - 55)
  else none

/-- One to three decimal digits without a leading zero, for a byte, and what follows. -/
def readByte (text : List Char) : Option (UInt8 × List Char) :=
  let digits := text.takeWhile Char.isDigit
  let value := Nat.ofDigitChars 10 digits 0
  if digits.isEmpty || 3 < digits.length || 255 < value then none
  else if digits.head? == some '0' && digits.length != 1 then none
  else some (UInt8.ofNat value, text.dropWhile Char.isDigit)

/-- A character that must be next. -/
def readMark (mark : Char) : List Char → Option (List Char)
  | [] => none
  | c :: rest => if c = mark then some rest else none

def readIPv4 (text : List Char) : Option (IPv4 × List Char) := do
  let (a, text) ← readByte text
  let (b, text) ← readByte (← readMark '.' text)
  let (c, text) ← readByte (← readMark '.' text)
  let (d, text) ← readByte (← readMark '.' text)
  return (⟨a, b, c, d⟩, text)

/-- One to four hexadecimal digits, and what follows. -/
def readGroup (text : List Char) : Option (UInt16 × List Char) :=
  let digits := text.takeWhile fun c => (hexDigit? c).isSome
  if digits.isEmpty || 4 < digits.length then none
  else
    let value := digits.foldl (fun value c => value * 16 + (hexDigit? c).getD 0) 0
    some (UInt16.ofNat value, text.drop digits.length)

/-- What the groups on one side of the gap say. -/
structure GroupRun where
  groups : List UInt16
  /-- The last two groups were written as four bytes. -/
  endsInIPv4 : Bool
  rest : List Char

/-- As many groups as there are, up to `limit`, with a colon in front of each but the first. -/
def readGroups (first : Bool) (text : List Char) : Nat → GroupRun
  | 0 => ⟨[], false, text⟩
  | limit + 1 =>
      match if first then some text else readMark ':' text with
      | none => ⟨[], false, text⟩
      | some inner =>
          match if limit = 0 then none else readIPv4 inner with
          | some (address, rest) => ⟨address.groups, true, rest⟩
          | none =>
              match readGroup inner with
              | none => ⟨[], false, text⟩
              | some (group, rest) =>
                  let others := readGroups false rest limit
                  { others with groups := group :: others.groups }

/-- Eight groups, if there are eight. -/
def ofGroups? (groups : List UInt16) : Option IPv6 :=
  if h : groups.length = 8 then some ⟨⟨groups.toArray, by simpa using h⟩⟩ else none

def readIPv6 (text : List Char) : Option (IPv6 × List Char) := do
  let front := readGroups true text 8
  if front.groups.length = 8 then
    return (← ofGroups? front.groups, front.rest)
  else if front.endsInIPv4 then none
  else
    let rest ← readMark ':' (← readMark ':' front.rest)
    let back := readGroups true rest (7 - front.groups.length)
    let zeros := List.replicate (8 - front.groups.length - back.groups.length) 0
    return (← ofGroups? (front.groups ++ zeros ++ back.groups), back.rest)

/-- The address that the whole of a text denotes. -/
def ofText? (text : String) : Option Address :=
  match readIPv4 text.toList with
  | some (address, []) => some (.v4 address)
  | some _ => none
  | none =>
      match readIPv6 text.toList with
      | some (address, []) => some (.v6 address)
      | _ => none

end Address

end FoodOrdering
