import FoodOrdering.Reading
import FoodOrdering.Text.Case

/-!
# Media types

A header that names what a body is: a type, a subtype, and parameters whose form only matters.
Letter case makes no difference.
-/

namespace FoodOrdering.Http

structure MediaType where
  type : String
  /-- The subtype up to its last plus sign. -/
  subtype : String
  /-- What follows the last plus sign of the subtype. -/
  suffix : Option String
  deriving DecidableEq, Repr

namespace MediaType

/-- A character that names consist of. -/
def isToken (c : Char) : Bool :=
  c.isAlphanum || ['!', '#', '$', '%', '&', '\'', '*', '+', '-', '.', '^', '_', '|', '~'].contains c ||
    c.toNat == 0x60

/-- A character that may stand between quotation marks. -/
def isQuotable (c : Char) : Bool :=
  0x20 ≤ c.toNat && c.toNat != 0x7f

open Reading

/-- Reads from the front of a header, or finds that it names no media type. -/
abbrev Reader : Type → Type := Reading Char Unit

/-- A name of at least one character. -/
def name : Reader (List Char) := do
  let name ← run isToken
  if name.isEmpty then fail () else return name

/-- A value between quotation marks, behind the first; its first character may be one itself. -/
def quotedValue : Reader Unit := do
  match ← next with
  | none => fail ()
  | some first =>
      if !isQuotable first then fail ()
      else
        skip fun c => c != '"' && isQuotable c
        match ← next with
        | some '"' => return ()
        | _ => fail ()

/-- A value, and the semicolon behind it if there is one. -/
def value : Reader Unit := do
  match ← peek with
  | some '"' =>
      let _ ← next
      quotedValue
      skip (· == ' ')
      match ← next with
      | none => return ()
      | some c => if c == ';' then return () else fail ()
  | _ =>
      let value ← run isToken
      match ← next with
      | none => return ()
      | some c => if c == ';' && !value.isEmpty then return () else fail ()

/-- Parameters behind the first semicolon. -/
def parameters : Reader Unit :=
  loop () (fun (_ : Unit) => do
    skip (· == ' ')
    match ← peek with
    | none => return .stop ()
    | some _ =>
        let _ ← name
        match ← next with
        | some '=' =>
            value
            return .again ()
        | _ => fail ()) ()

/-- Subtype and suffix; a plus sign in front belongs to the subtype. -/
def splitSuffix (text : List Char) : List Char × Option (List Char) :=
  let behind := text.reverse.takeWhile (· != '+')
  match text.reverse.dropWhile (· != '+') with
  | [] => (text, none)
  | [_] => (text, none)
  | _ :: before => (before.reverse, some behind.reverse)

def mediaType : Reader MediaType := do
  let type ← name
  match ← next with
  | some '/' =>
      let (subtype, suffix) := splitSuffix (← run isToken)
      let found : MediaType :=
        { type := Text.lowerAscii (String.ofList type)
          subtype := Text.lowerAscii (String.ofList subtype)
          suffix := suffix.map fun text => Text.lowerAscii (String.ofList text) }
      match ← next with
      | none => return found
      | some c =>
          if c == ';' && !subtype.isEmpty then
            parameters
            return found
          else fail ()
  | _ => fail ()

/-- The media type that the whole of a text names. -/
def ofText? (text : String) : Option MediaType :=
  match mediaType text.toList with
  | (.ok found, _) => some found
  | (.error _, _) => none

/-- A body of this type is JSON. -/
def isJson (mediaType : MediaType) : Bool :=
  mediaType.type == "application" &&
    (mediaType.subtype == "json" || mediaType.suffix == some "json")

end MediaType

end FoodOrdering.Http
