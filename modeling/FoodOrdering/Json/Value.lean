import FoodOrdering.Number.Shortest
import FoodOrdering.Text.Decimal
import FoodOrdering.Text.Utf8

/-!
# JSON values and their compact text

Objects keep their members in order, and no member name occurs twice in what this library writes.
A text is written as it is, apart from the quotation mark, the backslash and the control
characters; a number that is not finite is written as null.
-/

namespace FoodOrdering

inductive Json where
  | null
  | bool (value : Bool)
  | integer (value : Int)
  | real (value : Float)
  | text (value : String)
  | list (items : List Json)
  | object (members : List (String × Json))
  deriving Inhabited

namespace Json

/-- A hexadecimal digit below sixteen, in small letters. -/
def hexDigit (value : Nat) : Char :=
  Nat.digitChar (value % 16)

/-- One character inside quotation marks. -/
def escapeChar (c : Char) : List Char :=
  if c = '"' then ['\\', '"']
  else if c = '\\' then ['\\', '\\']
  else if c.val = 0x08 then ['\\', 'b']
  else if c.val = 0x09 then ['\\', 't']
  else if c.val = 0x0a then ['\\', 'n']
  else if c.val = 0x0c then ['\\', 'f']
  else if c.val = 0x0d then ['\\', 'r']
  else if c.val < 0x20 then
    ['\\', 'u', '0', '0', hexDigit (c.toNat / 16), hexDigit c.toNat]
  else [c]

/-- A text between quotation marks. -/
def quoteChars (text : List Char) : List Char :=
  '"' :: (text.flatMap escapeChar ++ ['"'])

/-- A text between quotation marks. -/
def quote (text : String) : String :=
  String.ofList (quoteChars text.toList)

/-- Where the decimal point of a number stands: positional for one to sixteen digits before the
point and for up to four zeros behind it, with an exponent otherwise. -/
def placePoint (number : Number.Scientific) : List Char :=
  let digits := Text.writeNat number.digits
  let size : Int := digits.length
  let point : Int := size + number.exponent
  if 0 ≤ number.exponent ∧ point ≤ 16 then
    digits ++ List.replicate number.exponent.toNat '0' ++ ['.', '0']
  else if 0 < point ∧ point ≤ 16 then
    digits.take point.toNat ++ '.' :: digits.drop point.toNat
  else if -5 < point ∧ point ≤ 0 then
    '0' :: '.' :: (List.replicate (-point).toNat '0' ++ digits)
  else if size = 1 then
    digits ++ 'e' :: Text.writeInt (point - 1)
  else
    digits.take 1 ++ '.' :: (digits.drop 1 ++ 'e' :: Text.writeInt (point - 1))

/-- The text of a double; one that is not finite has none and is null. -/
def realChars (value : Float) : List Char :=
  let bits := value.toBits
  let size := bits &&& 0x7fffffffffffffff
  let sign := if bits >>> 63 == 1 then ['-'] else []
  if 0x7ff0000000000000 ≤ size then ['n', 'u', 'l', 'l']
  else if size == 0 then sign ++ ['0', '.', '0']
  else sign ++ placePoint (Number.shortest size)

mutual

/-- The compact text of a value. -/
def chars : Json → List Char
  | .null => ['n', 'u', 'l', 'l']
  | .bool true => ['t', 'r', 'u', 'e']
  | .bool false => ['f', 'a', 'l', 's', 'e']
  | .integer value => Text.writeInt value
  | .real value => realChars value
  | .text value => quoteChars value.toList
  | .list items => '[' :: (itemChars items ++ [']'])
  | .object members => '{' :: (memberChars members ++ ['}'])

/-- Items with commas between them. -/
def itemChars : List Json → List Char
  | [] => []
  | [item] => chars item
  | item :: rest => chars item ++ ',' :: itemChars rest

/-- Members with commas between them. -/
def memberChars : List (String × Json) → List Char
  | [] => []
  | [(name, value)] => quoteChars name.toList ++ ':' :: chars value
  | (name, value) :: rest =>
      quoteChars name.toList ++ ':' :: (chars value ++ ',' :: memberChars rest)

end

/-- The compact text of a value. -/
def render (value : Json) : String :=
  String.ofList value.chars

/-- The compact text of a value, as bytes. -/
def toUtf8 (value : Json) : ByteArray :=
  value.render.toUTF8

/-- A text if there is one, else null. -/
def optional : Option String → Json
  | some value => .text value
  | none => .null

end Json

end FoodOrdering
