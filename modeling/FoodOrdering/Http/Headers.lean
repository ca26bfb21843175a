import FoodOrdering.Text.Case
import FoodOrdering.Text.Utf8

/-!
# Header fields

A message carries values under names, several values under one name if need be.  The values under
one name have an order, the names have none.  Names are kept in small letters, so that they compare
up to the case of ASCII letters.  A value is bytes; it can be read as a text when every byte is
visible ASCII or a tab.
-/

namespace FoodOrdering.Http

/-- A byte that a readable value consists of. -/
def isVisible (byte : UInt8) : Bool :=
  (0x20 ≤ byte && byte ≤ 0x7e) || byte == 0x09

/-- A byte that may stand in a value. -/
def isLegal (byte : UInt8) : Bool :=
  (0x20 ≤ byte && byte != 0x7f) || byte == 0x09

/-- The text of a value of visible ASCII. -/
def textOf? (value : List UInt8) : Option String :=
  if value.all isVisible then
    some (String.ofList (value.map fun byte => Char.ofNat byte.toNat))
  else none

/-- The value that carries a text, if all its bytes are legal. -/
def valueOf? (text : String) : Option (List UInt8) :=
  let bytes := Text.utf8 text
  if bytes.all isLegal then some bytes else none

structure Field where
  name : String
  value : List UInt8
  deriving DecidableEq, Repr

/-- The fields of a message.  Two fields with different names stand in no order that means anything:
where a name is taken away, a header map puts its last name into the gap, and the list closes up.
That two headers are the same says no more than that they have the same values under each name. -/
structure Headers where
  fields : List Field
  deriving DecidableEq, Repr

namespace Headers

def empty : Headers := ⟨[]⟩

/-- The fields in this order, with their names in small letters. -/
def ofList (fields : List (String × List UInt8)) : Headers :=
  ⟨fields.map fun field => ⟨Text.lowerAscii field.1, field.2⟩⟩

/-- All values under a name. -/
def getAll (headers : Headers) (name : String) : List (List UInt8) :=
  (headers.fields.filter fun field => field.name == name).map Field.value

/-- The first value under a name. -/
def get? (headers : Headers) (name : String) : Option (List UInt8) :=
  (headers.fields.find? fun field => field.name == name).map Field.value

/-- The first value under a name, if it can be read as a text. -/
def getText? (headers : Headers) (name : String) : Option String :=
  (headers.get? name).bind textOf?

def contains (headers : Headers) (name : String) : Bool :=
  headers.fields.any fun field => field.name == name

/-- The fields under other names. -/
def remove (headers : Headers) (name : String) : Headers :=
  ⟨headers.fields.filter fun field => field.name != name⟩

/-- The fields under none of these names. -/
def removeAll (headers : Headers) (names : List String) : Headers :=
  ⟨headers.fields.filter fun field => !names.contains field.name⟩

/-- One more value under a name. -/
def append (headers : Headers) (name : String) (value : List UInt8) : Headers :=
  ⟨headers.fields ++ [⟨name, value⟩]⟩

/-- This value and no other under a name. -/
def insert (headers : Headers) (name : String) (value : List UInt8) : Headers :=
  (headers.remove name).append name value

/-- This text and no other under a name. -/
def insertText (headers : Headers) (name text : String) : Headers :=
  headers.insert name (Text.utf8 text)

/-!
## Taking fields away

What is taken away under some names is gone under these names, and all that stands under other
names stays as it was.
-/

variable {headers : Headers} {names : List String} {name : String}

theorem get?_removeAll_of_mem (h : name ∈ names) : (headers.removeAll names).get? name = none := by
  rw [get?, removeAll, List.find?_filter, Option.map_eq_none_iff, List.find?_eq_none]
  intro field _ hboth
  rw [decide_eq_true_eq, beq_iff_eq] at hboth
  obtain ⟨hkept, rfl⟩ := hboth
  simp [h] at hkept

theorem get?_removeAll_of_notMem (h : name ∉ names) :
    (headers.removeAll names).get? name = headers.get? name := by
  rw [get?, removeAll, List.find?_filter]
  congr 2
  funext field
  by_cases hname : field.name = name
  · subst hname
    simp [h]
  · simp [hname]

theorem getAll_removeAll_of_mem (h : name ∈ names) :
    (headers.removeAll names).getAll name = [] := by
  rw [getAll, removeAll, List.filter_filter, List.map_eq_nil_iff, List.filter_eq_nil_iff]
  intro field _ hboth
  rw [Bool.and_eq_true, beq_iff_eq] at hboth
  obtain ⟨rfl, hkept⟩ := hboth
  simp [h] at hkept

theorem getAll_removeAll_of_notMem (h : name ∉ names) :
    (headers.removeAll names).getAll name = headers.getAll name := by
  rw [getAll, removeAll, List.filter_filter, getAll]
  congr 2
  funext field
  by_cases hname : field.name = name
  · subst hname
    simp [h]
  · simp [hname]

/-- What is gone already cannot be taken away once more. -/
@[simp]
theorem removeAll_removeAll :
    (headers.removeAll names).removeAll names = headers.removeAll names := by
  unfold removeAll
  rw [List.filter_filter]
  congr 2
  funext field
  exact Bool.and_self _

end Headers

end FoodOrdering.Http
