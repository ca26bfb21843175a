import FoodOrdering.Network.Address
import FoodOrdering.Text.Case
import FoodOrdering.Text.Decimal
import FoodOrdering.Text.Segments
import FoodOrdering.Text.Utf8

/-!
# Addresses of the web

What an address asks a server for.  On the way from the text to the path, a segment of one point
is left out and a segment of two points takes back the one before it, also where the points are
written by number; a question mark ends the path, and a number sign ends everything.
-/

namespace FoodOrdering

structure Url where
  /-- The connection is encrypted. -/
  secure : Bool
  host : String
  /-- The number to connect to, if it is not the usual one. -/
  number : Option Nat
  /-- The segments of the path; there is at least one, and it may be empty. -/
  segments : List (List Char)
  query : Option (List Char)
  deriving DecidableEq, Repr

namespace Url

/-- The path that is asked for. -/
def path (url : Url) : List Char :=
  url.segments.flatMap fun segment => '/' :: segment

/-! ## Percent signs -/

def hexDigits (byte : UInt8) : List Char :=
  [Nat.digitChar (byte.toNat / 16), Nat.digitChar (byte.toNat % 16)].map Char.toUpper

/-- The bytes of a character, each by number behind a percent sign. -/
def byNumber (c : Char) : List Char :=
  (Text.utf8 (String.singleton c)).flatMap fun byte => '%' :: hexDigits byte

/-- A character that stands for itself nowhere in an address. -/
def isOutside (c : Char) : Bool :=
  c.toNat ≤ 0x20 || 0x7e < c.toNat || c == '"' || c == '<' || c == '>'

/-- A character that a path carries by number. -/
def isByNumberInPath (c : Char) : Bool :=
  isOutside c || c == '^' || c.toNat == 0x60 || c.toNat == 0x7b || c.toNat == 0x7d

/-- A character that a query carries by number. -/
def isByNumberInQuery (c : Char) : Bool :=
  isOutside c || c == '\''

def encode (isByNumber : Char → Bool) (text : List Char) : List Char :=
  text.flatMap fun c => if isByNumber c then byNumber c else [c]

/-! ## Segments -/

/-- The text with every point that is written by number as a point. -/
def plainPoints : List Char → List Char
  | '%' :: '2' :: c :: rest =>
      if c = 'e' ∨ c = 'E' then '.' :: plainPoints rest
      else '%' :: '2' :: plainPoints (c :: rest)
  | c :: rest => c :: plainPoints rest
  | [] => []
termination_by text => text.length

/-- A segment that stands for the place where it is. -/
def isHere (segment : List Char) : Bool :=
  plainPoints segment == ['.']

/-- A segment that stands for the place above. -/
def isAbove (segment : List Char) : Bool :=
  plainPoints segment == ['.', '.']

/-- Go through segments from a place, whose segments stand in reverse. -/
def walk (place : List (List Char)) : List (List Char) → List (List Char)
  | [] => place.reverse
  | [last] =>
      if isAbove last then (place.drop 1).reverse ++ [[]]
      else if isHere last then place.reverse ++ [[]]
      else place.reverse ++ [encode isByNumberInPath last]
  | segment :: rest =>
      if isAbove segment then walk (place.drop 1) rest
      else if isHere segment then walk place rest
      else walk (encode isByNumberInPath segment :: place) rest

/-- A slash, or a backslash in its place. -/
def isSlash (c : Char) : Bool :=
  c == '/' || c == '\\'

/-- The segments of a path without its first slash. -/
def segmentsOf (path : List Char) : List (List Char) :=
  walk [] (Text.segments '/' (path.map fun c => if c == '\\' then '/' else c))

/-! ## Reading -/

/-- The text without what may stand in an address and means nothing. -/
def cleaned (text : List Char) : List Char :=
  let isEdge := fun (c : Char) => c.toNat ≤ 0x20
  let inner := ((text.dropWhile isEdge).reverse.dropWhile isEdge).reverse
  inner.filter fun c => c != '\t' && c != '\n' && c != '\r'

/-- Whether the connection is encrypted, and what follows the scheme. -/
def scheme? (text : List Char) : Option (Bool × List Char) :=
  let name := Text.lowerAscii (String.ofList (text.takeWhile (· != ':')))
  match text.dropWhile (· != ':') with
  | [] => none
  | _ :: rest =>
      if name = "http" then some (false, rest)
      else if name = "https" then some (true, rest)
      else none

def endsAuthority (c : Char) : Bool :=
  isSlash c || c == '?' || c == '#'

/-- What follows the last sign between a user and a host. -/
def afterUser (authority : List Char) : List Char :=
  (authority.reverse.takeWhile (· != '@')).reverse

/-- A character that no name of a host has. -/
def isForbiddenInHost (c : Char) : Bool :=
  c.toNat ≤ 0x20 || c.toNat == 0x7f ||
    ['#', '/', '<', '>', '?', '@', '[', '\\', ']', '^', '|', '%', ':'].contains c

/-- A host that begins with a bracket goes on to the closing one, and keeps its colons. -/
def splitNumber (authority : List Char) : List Char × List Char :=
  match authority with
  | '[' :: inner =>
      let rest := inner.dropWhile (· != ']')
      ('[' :: inner.takeWhile (· != ']') ++ rest.take 1, rest.drop 1)
  | _ => (authority.takeWhile (· != ':'), authority.dropWhile (· != ':'))

/-- What names a host: a numeric address between brackets, or a name.  A name counts as it stands:
it is neither decoded nor brought to ASCII, and one that ends in a number is not checked to be a
numeric address. -/
def isHost (host : List Char) : Bool :=
  match host with
  | [] => false
  | '[' :: inner => (Address.readIPv6 inner).any fun read => read.2 == [']']
  | _ => !host.any isForbiddenInHost

/-- The number behind a colon; the usual one is not kept. -/
def number? (usual : Nat) : List Char → Option (Option Nat)
  | [] => some none
  | [':'] => some none
  | ':' :: digits => do
      let value ← Text.readNat? digits
      if 65535 < value then none else some (if value = usual then none else some value)
  | _ => none

/-- The address that a text denotes. -/
def parse (text : String) : Option Url := do
  let (secure, rest) ← scheme? (cleaned text.toList)
  let rest := rest.dropWhile isSlash
  let (host, digits) := splitNumber (afterUser (rest.takeWhile fun c => !endsAuthority c))
  if !isHost host then none
  else
    let number ← number? (if secure then 443 else 80) digits
    let target := (rest.dropWhile fun c => !endsAuthority c).takeWhile (· != '#')
    let path := target.takeWhile (· != '?')
    let query := target.dropWhile (· != '?')
    return { secure, number
             host := Text.lowerAscii (String.ofList host)
             segments := segmentsOf (path.drop 1)
             query := if query.isEmpty then none
               else some (encode isByNumberInQuery (query.drop 1)) }

theorem walk_ne_nil (place : List (List Char)) {segments : List (List Char)}
    (h : segments ≠ []) : walk place segments ≠ [] := by
  induction segments generalizing place with
  | nil => exact absurd rfl h
  | cons segment rest ih =>
      cases rest with
      | nil =>
          simp only [walk]
          split
          · simp
          · split <;> simp
      | cons next rest =>
          simp only [walk]
          split
          · exact ih _ (by simp)
          · split
            · exact ih _ (by simp)
            · exact ih _ (by simp)

theorem segmentsOf_ne_nil (path : List Char) : segmentsOf path ≠ [] :=
  walk_ne_nil [] (Text.segments_ne_nil '/' _)

end Url

end FoodOrdering
