import FoodOrdering.Json.Reader.Shape
import FoodOrdering.Json.Value

/-!
# Documents of any shape

A value of unknown shape is read whole.  The number of brackets that may be open at once is
bounded, so that a document cannot nest deeper than a reader of it can follow.
-/

namespace FoodOrdering.Json

open Reader in
/-- A value of any shape inside which at most `depth` brackets are open at once. -/
def Reader.value (depth : Nat) : Reader Json := do
  match ← peekToken with
  | none => fail .malformed
  | some byte =>
      if byte = 0x6e then
        let _ ← next
        wordAfter byte
        return .null
      else if byte = 0x74 ∨ byte = 0x66 then
        let _ ← next
        wordAfter byte
        return .bool (byte == 0x74)
      else if startsNumber byte then
        let _ ← next
        match ← numeral byte with
        | .integer value => return .integer value
        | .real value => return .real value
      else if byte = 0x22 then
        let _ ← next
        return .text (← textBody)
      else if byte = 0x5b ∨ byte = 0x7b then
        match depth with
        | 0 => fail .malformed
        | inner + 1 =>
            let _ ← next
            if byte = 0x5b then
              return .list (← closedBy (items (value inner)) endList)
            else
              let member (name : String) (read : List (String × Json)) :
                  Reader (List (String × Json)) := do
                let value ← memberValue (value inner)
                return (name, value) :: read
              let read ← closedBy (members member []) endObject
              return .object read.reverse
      else fail .malformed

/-- A whole document of any shape with at most 127 brackets open at once. -/
def parse (document : List UInt8) : Except Fault Json :=
  read (Reader.value 127) document

end FoodOrdering.Json
