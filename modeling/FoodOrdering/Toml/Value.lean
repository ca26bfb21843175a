/-!
# TOML values

What a document says, with the keys of each table in the order in which they were written and no
key twice.
-/

namespace FoodOrdering

inductive Toml where
  | text (value : String)
  | integer (value : Int)
  | real (value : Float)
  /-- A number that neither a word of 128 bits nor a double holds. -/
  | beyond
  | bool (value : Bool)
  /-- A date, a time or both. -/
  | moment (text : String)
  | list (items : List Toml)
  | table (entries : List (String × Toml))
  deriving Inhabited

namespace Toml

/-- The value under a key. -/
def lookup (entries : List (String × Toml)) (key : String) : Option Toml :=
  (entries.find? fun entry => entry.1 == key).map Prod.snd

mutual

/-- Every number in a value is held by a word or a double. -/
def isHeld : Toml → Bool
  | .beyond => false
  | .list items => areHeld items
  | .table entries => isHeldUnderKeys entries
  | _ => true

def areHeld : List Toml → Bool
  | [] => true
  | item :: rest => isHeld item && areHeld rest

def isHeldUnderKeys : List (String × Toml) → Bool
  | [] => true
  | (_, value) :: rest => isHeld value && isHeldUnderKeys rest

end

end Toml

end FoodOrdering
