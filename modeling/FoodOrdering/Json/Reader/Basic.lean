import FoodOrdering.Reading

/-!
# Readers of JSON

A failure is either text that is no JSON, or JSON of a shape that was not asked for, whichever is
met first from left to right.  A document is one value with nothing but white space around it.
-/

namespace FoodOrdering.Json

inductive Fault where
  /-- The text is not JSON. -/
  | malformed
  /-- The text is JSON so far, but not of the wanted shape. -/
  | mismatch
  deriving DecidableEq, Repr

/-- Reads a value from the front of a document. -/
abbrev Reader : Type → Type := Reading UInt8 Fault

namespace Reader

export Reading (done fail andThen ofExcept closedBy attempt peek next)

/-- A space, a tab, a line feed or a carriage return. -/
def isSpace (byte : UInt8) : Bool :=
  byte == 0x20 || byte == 0x09 || byte == 0x0a || byte == 0x0d

def isDigit (byte : UInt8) : Bool :=
  0x30 ≤ byte && byte ≤ 0x39

/-- Skip white space. -/
def spaces : Reader Unit :=
  Reading.skip isSpace

/-- The next byte after white space, and the shorter input behind it. -/
def token (input : List UInt8) :
    Option (UInt8 × { rest : List UInt8 // rest.length < input.length }) :=
  match h : input.dropWhile isSpace with
  | [] => none
  | byte :: rest =>
      some (byte, ⟨rest, by
        have := Reading.length_dropWhile_le isSpace input
        rw [h] at this
        exact this⟩)

/-- The next byte after white space, which stays in the input. -/
def peekToken : Reader (Option UInt8) := do
  spaces
  peek

/-- The run of digits at the front, possibly empty. -/
def digits : Reader (List Char) := do
  let bytes ← Reading.run isDigit
  return bytes.map fun byte => Char.ofNat byte.toNat

/-- Exactly these bytes. -/
def literal : List UInt8 → Reader Unit
  | [] => done ()
  | expected :: others => do
      match ← next with
      | none => fail .malformed
      | some byte => if byte = expected then literal others else fail .malformed

/-- The rest of `null`, `true` or `false` after its first letter, which must be one of theirs. -/
def wordAfter (first : UInt8) : Reader Unit :=
  if first = 0x6e then literal [0x75, 0x6c, 0x6c]
  else if first = 0x74 then literal [0x72, 0x75, 0x65]
  else literal [0x61, 0x6c, 0x73, 0x65]

end Reader

/-- Read a whole document: one value and white space around it. -/
def read {α : Type} (item : Reader α) (document : List UInt8) : Except Fault α :=
  match item document with
  | (.error fault, _) => .error fault
  | (.ok value, rest) =>
      if rest.1.all Reader.isSpace then .ok value else .error .malformed

end FoodOrdering.Json
