import FoodOrdering.Store.Table
import FoodOrdering.Text.Decimal
import FoodOrdering.Text.Segments

/-!
# What is wrong with the fields of a request

All that is wrong with a request is gathered before it is refused.  The fields stand in order of
their names, and what is said of one field in the order in which it was found.
-/

namespace FoodOrdering

structure FieldErrors where
  messages : Table String (List String)

namespace FieldErrors

def empty : FieldErrors :=
  ⟨.empty⟩

/-- All that was said of a field. -/
def of (errors : FieldErrors) (field : String) : List String :=
  (errors.messages.find? field).getD []

/-- Say one more thing of a field. -/
def add (errors : FieldErrors) (field message : String) : FieldErrors :=
  ⟨errors.messages.insert field (errors.of field ++ [message])⟩

/-- Say something of a field for which a condition does not hold. -/
def require (errors : FieldErrors) (holds : Bool) (field message : String) : FieldErrors :=
  if holds then errors else errors.add field message

/-- A text is there, and not all of it is blank. -/
def isGiven (value : Option String) : Bool :=
  value.any fun text => !Text.isBlankText text

def notBlank (errors : FieldErrors) (field : String) (value : Option String) (message : String) :
    FieldErrors :=
  errors.require (isGiven value) field message

def notNull {α : Type} (errors : FieldErrors) (field : String) (value : Option α)
    (message : String) : FieldErrors :=
  errors.require value.isSome field message

/-- A text that is there has at least and at most so many characters. -/
def size (errors : FieldErrors) (field : String) (value : Option String) (least most : Nat) :
    FieldErrors :=
  errors.require (value.all fun text => least ≤ text.length && text.length ≤ most) field
    ("size must be between " ++ Text.ofNat least ++ " and " ++ Text.ofNat most)

def isEmpty (errors : FieldErrors) : Bool :=
  errors.messages.entries.isEmpty

/-- Each field with all that was said of it. -/
def joined (errors : FieldErrors) : List (String × String) :=
  errors.messages.entries.map fun entry => (entry.1, "; ".intercalate entry.2)

end FieldErrors

end FoodOrdering
