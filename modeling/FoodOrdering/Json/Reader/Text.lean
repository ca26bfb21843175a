import FoodOrdering.Json.Reader.Basic
import FoodOrdering.Text.Utf8

/-!
# Texts in JSON

What stands between two quotation marks.  A text that is wanted has its escapes resolved and is
UTF-8; of a text that nobody asks for only the form is checked.
-/

namespace FoodOrdering.Json.Reader

def hexValue? (byte : UInt8) : Option Nat :=
  if 0x30 ≤ byte ∧ byte ≤ 0x39 then some (byte.toNat - 0x30)
  else if 0x41 ≤ byte ∧ byte ≤ 0x46 then some (byte.toNat - 0x37)
  else if 0x61 ≤ byte ∧ byte ≤ 0x66 then some (byte.toNat - 0x57)
  else none

/-- Four hexadecimal digits. -/
def fourHex : Reader Nat
  | first :: second :: third :: fourth :: rest =>
      let value := do
        let a ← hexValue? first
        let b ← hexValue? second
        let c ← hexValue? third
        let d ← hexValue? fourth
        return ((a * 16 + b) * 16 + c) * 16 + d
      (match value with
        | some value => .ok value
        | none => .error .malformed,
        ⟨rest, by simp only [List.length_cons]; omega⟩)
  | _ => (.error .malformed, ⟨[], Nat.zero_le _⟩)

def isLeadingSurrogate (code : Nat) : Bool :=
  0xd800 ≤ code && code ≤ 0xdbff

def isTrailingSurrogate (code : Nat) : Bool :=
  0xdc00 ≤ code && code ≤ 0xdfff

/-- The bytes of an escaped character whose mark `u` was read; a character beyond the basic plane
takes two escapes in a row. -/
def escapedCode : Reader (List UInt8) := do
  let code ← fourHex
  if isTrailingSurrogate code then fail .malformed
  else if !isLeadingSurrogate code then return String.utf8EncodeChar (Char.ofNat code)
  else
    match ← next with
    | some 0x5c =>
        match ← next with
        | some 0x75 =>
            let low ← fourHex
            if isTrailingSurrogate low then
              let point := (code - 0xd800) * 0x400 + (low - 0xdc00) + 0x10000
              return String.utf8EncodeChar (Char.ofNat point)
            else fail .malformed
        | _ => fail .malformed
    | _ => fail .malformed

/-- The character that a letter after a backslash stands for. -/
def simpleEscape? (byte : UInt8) : Option UInt8 :=
  if byte = 0x22 ∨ byte = 0x5c ∨ byte = 0x2f then some byte
  else if byte = 0x62 then some 0x08
  else if byte = 0x66 then some 0x0c
  else if byte = 0x6e then some 0x0a
  else if byte = 0x72 then some 0x0d
  else if byte = 0x74 then some 0x09
  else none

/-- The bytes of an escape whose backslash was read. -/
def escape : Reader (List UInt8) := do
  match ← next with
  | none => fail .malformed
  | some byte =>
      match simpleEscape? byte with
      | some value => return [value]
      | none => if byte = 0x75 then escapedCode else fail .malformed

/-- The form of an escape whose backslash was read. -/
def skipEscape : Reader Unit := do
  match ← next with
  | none => fail .malformed
  | some byte =>
      if (simpleEscape? byte).isSome then return ()
      else if byte = 0x75 then
        let _ ← fourHex
      else fail .malformed

/-- The bytes of a text up to its closing quotation mark, with `read` in reverse before them;
`input` is what is left of `whole`. -/
def textBytes (whole : List UInt8) (read : List UInt8) (input : List UInt8)
    (h : input.length ≤ whole.length) : Except Fault (List UInt8) × Rest whole :=
  match input with
  | [] => (.error .malformed, ⟨[], h⟩)
  | byte :: rest =>
      have hrest : rest.length < whole.length := h
      if byte = 0x22 then (.ok read.reverse, ⟨rest, Nat.le_of_lt hrest⟩)
      else if byte = 0x5c then
        match escape rest with
        | (.error fault, after) => (.error fault, Rest.weaken (Nat.le_of_lt hrest) after)
        | (.ok value, after) =>
            have := after.2
            textBytes whole (value.reverse ++ read) after.1
              (Nat.le_trans after.2 (Nat.le_of_lt hrest))
      else if byte < 0x20 then (.error .malformed, ⟨rest, Nat.le_of_lt hrest⟩)
      else textBytes whole (byte :: read) rest (Nat.le_of_lt hrest)
termination_by input.length
decreasing_by all_goals simp only [List.length_cons]; omega

/-- Skip a text to behind its closing quotation mark. -/
def skipTextBytes (whole : List UInt8) (input : List UInt8)
    (h : input.length ≤ whole.length) : Except Fault Unit × Rest whole :=
  match input with
  | [] => (.error .malformed, ⟨[], h⟩)
  | byte :: rest =>
      have hrest : rest.length < whole.length := h
      if byte = 0x22 then (.ok (), ⟨rest, Nat.le_of_lt hrest⟩)
      else if byte = 0x5c then
        match skipEscape rest with
        | (.error fault, after) => (.error fault, Rest.weaken (Nat.le_of_lt hrest) after)
        | (.ok _, after) =>
            have := after.2
            skipTextBytes whole after.1 (Nat.le_trans after.2 (Nat.le_of_lt hrest))
      else if byte < 0x20 then (.error .malformed, ⟨rest, Nat.le_of_lt hrest⟩)
      else skipTextBytes whole rest (Nat.le_of_lt hrest)
termination_by input.length
decreasing_by all_goals simp only [List.length_cons]; omega

/-- Skip a text whose opening quotation mark was read. -/
def skipText : Reader Unit :=
  fun input => skipTextBytes input input (Rest.length_le_self input)

/-- A text whose opening quotation mark was read. -/
def textBody : Reader String := do
  let bytes ← fun input => textBytes input [] input (Rest.length_le_self input)
  match Text.ofUtf8? bytes with
  | some value => return value
  | none => fail .malformed

end FoodOrdering.Json.Reader
