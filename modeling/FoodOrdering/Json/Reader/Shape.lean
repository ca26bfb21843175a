import FoodOrdering.Json.Reader.Number
import FoodOrdering.Json.Reader.Text
import FoodOrdering.Text.Decimal

/-!
# Values of a wanted shape

Single values, lists, objects with known members, and records, which may be written as either.
The wrong shape is noticed at the first byte that shows it.
-/

namespace FoodOrdering.Json.Reader

variable {α σ : Type}

/-- Refuse the value at the front.  A value that is no bracket is read first, because text that
is no JSON counts before the wrong shape. -/
def refuse : Reader α := do
  match ← peek with
  | none => fail .malformed
  | some byte =>
      if byte = 0x6e ∨ byte = 0x74 ∨ byte = 0x66 then
        let _ ← next
        wordAfter byte
        fail .mismatch
      else if startsNumber byte then
        let _ ← next
        let _ ← numeral byte
        fail .mismatch
      else if byte = 0x22 then
        let _ ← next
        let _ ← textBody
        fail .mismatch
      else if byte = 0x5b ∨ byte = 0x7b then fail .mismatch
      else fail .malformed

/-- A whole number of 64 bits with a sign. -/
def int64 : Reader Int64 := do
  match ← peekToken with
  | none => fail .malformed
  | some byte =>
      if startsNumber byte then
        let _ ← next
        match ← numeral byte with
        | .integer value =>
            match Text.int64OfInt? value with
            | some word => return word
            | none => fail .mismatch
        | .real _ => fail .mismatch
      else refuse

/-- A number, rounded to the nearest double. -/
def float : Reader Float := do
  match ← peekToken with
  | none => fail .malformed
  | some byte =>
      if startsNumber byte then
        let _ ← next
        match ← numeral byte with
        | .integer value =>
            return if 0 ≤ value then Float.ofNat value.toNat else -Float.ofNat (-value).toNat
        | .real value => return value
      else refuse

def text : Reader String := do
  match ← peekToken with
  | none => fail .malformed
  | some byte =>
      if byte = 0x22 then
        let _ ← next
        textBody
      else refuse

def null : Reader Unit := do
  match ← peekToken with
  | none => fail .malformed
  | some byte =>
      if byte = 0x6e then
        let _ ← next
        wordAfter byte
      else refuse

/-- Null, or a value. -/
def optional (item : Reader α) : Reader (Option α) := do
  match ← peekToken with
  | some 0x6e =>
      let _ ← next
      wordAfter 0x6e
      return none
  | _ => some <$> item

/-! ## Lists and objects -/

/-- The closing bracket of a list. -/
def endList : Reader Unit := do
  match ← peekToken with
  | some 0x5d =>
      let _ ← next
  | some 0x2c =>
      let _ ← next
      fail .malformed
  | _ => fail .malformed

/-- The closing bracket of an object. -/
def endObject : Reader Unit := do
  match ← peekToken with
  | some 0x7d =>
      let _ ← next
  | _ => fail .malformed

/-- The next item of a list whose opening bracket was read, or none before the closing one. -/
def element (first : Bool) (item : Reader α) : Reader (Option α) := do
  match ← peekToken with
  | none => fail .malformed
  | some 0x5d => return none
  | some byte =>
      if first then some <$> item
      else if byte = 0x2c then
        let _ ← next
        match ← peekToken with
        | none => fail .malformed
        | some 0x5d => fail .malformed
        | some _ => some <$> item
      else fail .malformed

/-- The next item of a list, which must be there. -/
def required (first : Bool) (item : Reader α) : Reader α := do
  match ← element first item with
  | some value => return value
  | none => fail .mismatch

/-- The items behind the first one, with `read` in reverse before them; `input` is what is left
of `whole`. -/
def moreItems (item : Reader α) (whole : List UInt8) (read : List α) (input : List UInt8)
    (h : input.length ≤ whole.length) : Except Fault (List α) × Rest whole :=
  match token input with
  | none => (.error .malformed, ⟨[], Nat.zero_le _⟩)
  | some (byte, rest) =>
      have hrest : rest.1.length ≤ whole.length := Nat.le_trans (Nat.le_of_lt rest.2) h
      if byte = 0x5d then (.ok read.reverse, ⟨input, h⟩)
      else if byte = 0x2c then
        match token rest.1 with
        | none => (.error .malformed, ⟨[], Nat.zero_le _⟩)
        | some (after, _) =>
            if after = 0x5d then (.error .malformed, ⟨rest.1, hrest⟩)
            else
              match item rest.1 with
              | (.error fault, left) => (.error fault, Rest.weaken hrest left)
              | (.ok value, left) =>
                  have := Nat.lt_of_le_of_lt left.2 rest.2
                  moreItems item whole (value :: read) left.1 (Nat.le_trans left.2 hrest)
      else (.error .malformed, ⟨input, h⟩)
termination_by input.length

/-- All items up to the closing bracket. -/
def items (item : Reader α) : Reader (List α) := do
  match ← peekToken with
  | none => fail .malformed
  | some 0x5d => return []
  | some _ =>
      let first ← item
      fun input => moreItems item input [first] input (Rest.length_le_self input)

/-- A list of items. -/
def list (item : Reader α) : Reader (List α) := do
  match ← peekToken with
  | some 0x5b =>
      let _ ← next
      closedBy (items item) endList
  | _ => refuse

/-- The value of a member after its name. -/
def memberValue (item : Reader α) : Reader α := do
  match ← peekToken with
  | some 0x3a =>
      let _ ← next
      item
  | _ => fail .malformed

/-- A member whose opening quotation mark was read, added to what was read before. -/
def memberAfterMark (member : String → σ → Reader σ) (read : σ) : Reader σ := do
  let name ← textBody
  member name read

/-- The members behind the first one, each of them added to what was read before; `input` is
what is left of `whole`. -/
def moreMembers (member : String → σ → Reader σ) (whole : List UInt8) (read : σ)
    (input : List UInt8) (h : input.length ≤ whole.length) : Except Fault σ × Rest whole :=
  match token input with
  | none => (.error .malformed, ⟨[], Nat.zero_le _⟩)
  | some (byte, rest) =>
      have hrest : rest.1.length ≤ whole.length := Nat.le_trans (Nat.le_of_lt rest.2) h
      if byte = 0x7d then (.ok read, ⟨input, h⟩)
      else if byte = 0x2c then
        match token rest.1 with
        | none => (.error .malformed, ⟨[], Nat.zero_le _⟩)
        | some (mark, body) =>
            have hbody : body.1.length ≤ whole.length :=
              Nat.le_trans (Nat.le_of_lt body.2) hrest
            if mark = 0x22 then
              match memberAfterMark member read body.1 with
              | (.error fault, left) => (.error fault, Rest.weaken hbody left)
              | (.ok read, left) =>
                  have := Nat.lt_of_le_of_lt left.2 (Nat.lt_trans body.2 rest.2)
                  moreMembers member whole read left.1 (Nat.le_trans left.2 hbody)
            else (.error .malformed, ⟨rest.1, hrest⟩)
      else (.error .malformed, ⟨input, h⟩)
termination_by input.length

/-- All members up to the closing bracket, each of them added to what was read before. -/
def members (member : String → σ → Reader σ) (read : σ) : Reader σ := do
  match ← peekToken with
  | some 0x7d => return read
  | some 0x22 =>
      let _ ← next
      let read ← memberAfterMark member read
      fun input => moreMembers member input read input (Rest.length_le_self input)
  | _ => fail .malformed

/-- A record, written as an object with its members in any order or as the list of all its
values in the order of their declaration. -/
def record (fromMembers fromItems : Reader α) : Reader α := do
  match ← peekToken with
  | some 0x7b =>
      let _ ← next
      closedBy fromMembers endObject
  | some 0x5b =>
      let _ ← next
      closedBy fromItems endList
  | _ => refuse

/-- The value of a member that may occur once only. -/
def once (before : Option α) (item : Reader α) : Reader (Option α) :=
  match before with
  | some _ => fail .mismatch
  | none => some <$> memberValue item

/-- One of some names, as a text or as the only member, null, of an object. -/
def choice (ofName? : String → Option α) : Reader α := do
  let named : Reader α := do
    let name ← text
    match ofName? name with
    | some value => return value
    | none => fail .mismatch
  match ← peekToken with
  | some 0x7b =>
      let _ ← next
      let value ← named
      memberValue null
      match ← peekToken with
      | some 0x7d =>
          let _ ← next
          return value
      | _ => fail .malformed
  | some 0x22 => named
  | _ => fail .malformed

end FoodOrdering.Json.Reader
