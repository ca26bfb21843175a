import FoodOrdering.Reading
import FoodOrdering.Toml.Scalar
import FoodOrdering.Toml.Tree

/-!
# TOML documents

A document is lines that are empty, hold a comment, open a table or enter a value under a key.
What is wrong with a document is not told apart.  Brackets nest to a bounded depth.
-/

namespace FoodOrdering.Toml

/-- Reads from the front of a document, or finds that it is none. -/
abbrev Reader : Type → Type := Reading Char Unit

namespace Reader

open Reading

def bad {α : Type} : Reader α := fail ()

def ofOption {α : Type} : Option α → Reader α
  | some value => done value
  | none => bad

/-- A control character that may stand nowhere; the tab may. -/
def isControl (c : Char) : Bool :=
  (c.toNat < 0x20 && c != '\t') || c.toNat == 0x7f

def isSpace (c : Char) : Bool := c == ' ' || c == '\t'

def spaces : Reader Unit := skip isSpace

/-- The character that must be next. -/
def expect (wanted : Char) : Reader Unit := do
  if (← next) == some wanted then return () else bad

/-- Take the next character if it is this one. -/
def accept (wanted : Char) : Reader Bool := do
  if (← peek) == some wanted then
    let _ ← next
    return true
  else return false

/-- Take all characters at the front if they are these. -/
def acceptAll (wanted : List Char) : Reader Bool :=
  fun input =>
    if wanted.isPrefixOf input then
      (.ok true, ⟨input.drop wanted.length, by simp⟩)
    else (.ok false, ⟨input, Nat.le_refl _⟩)

/-- A comment at the front is skipped up to the end of its line. -/
def comment : Reader Unit := do
  if ← accept '#' then
    let text ← run fun c => c != '\n' && c != '\r'
    if text.any isControl then bad else return ()

/-- The end of a line, if it is next. -/
def newline : Reader Bool := do
  if ← accept '\n' then return true else acceptAll ['\r', '\n']

/-- White space, comments and ends of lines. -/
def gap : Reader Unit :=
  loop () (fun (_ : Unit) => do
    spaces
    comment
    if ← newline then return .again () else return .stop ()) ()

/-! ## Texts -/

/-- The character with a code point, if there is one. -/
def charOf? (code : Nat) : Option Char :=
  if code < 0xd800 ∨ (0xdfff < code ∧ code < 0x110000) then some (Char.ofNat code) else none

/-- A character given by so many hexadecimal digits. -/
def codePoint (count : Nat) : Reader Char :=
  fun input =>
    let digits := input.take count
    match if digits.length = count ∧ digits.all isHexDigit then charOf? (ofDigits 16 digits)
      else none with
    | some c => (.ok c, ⟨input.drop count, by simp⟩)
    | none => (.error (), ⟨input, Nat.le_refl _⟩)

/-- The character of an escape whose backslash was read. -/
def escape : Reader Char := do
  match ← next with
  | some 'b' => return '\x08'
  | some 't' => return '\t'
  | some 'n' => return '\n'
  | some 'f' => return '\x0c'
  | some 'r' => return '\r'
  | some 'e' => return '\x1b'
  | some '"' => return '"'
  | some '\\' => return '\\'
  | some 'x' => codePoint 2
  | some 'u' => codePoint 4
  | some 'U' => codePoint 8
  | _ => bad

/-- A text on one line with escapes, behind its opening mark. -/
def basicText : Reader (List Char) :=
  loop () (fun (read : List Char) => do
    match ← next with
    | none => bad
    | some '"' => return .stop read.reverse
    | some '\\' => return .again ((← escape) :: read)
    | some c => if isControl c then bad else return .again (c :: read)) []

/-- A text on one line without escapes, behind its opening mark. -/
def literalText : Reader (List Char) := do
  let text ← run fun c => c != '\''
  expect '\''
  if text.any isControl then bad else return text

/-- The quotation marks at the front of the rest of a text on several lines: three of them end
it, and up to two more belong to it. -/
def closingMarks (quote : Char) : Reader (Bool × List Char) := fun input =>
  let count := min (input.takeWhile (· == quote)).length 5
  if 3 ≤ count then
    (.ok (true, List.replicate (count - 3) quote), ⟨input.drop count, by simp⟩)
  else (.ok (false, List.replicate count quote), ⟨input.drop count, by simp⟩)

/-- A backslash at the end of a line takes all white space up to the next text with it. -/
def lineEnd : Reader Bool := fun input =>
  let rest := input.dropWhile isSpace
  if ['\n'].isPrefixOf rest || ['\r', '\n'].isPrefixOf rest then
    (.ok true, ⟨input.dropWhile fun c => isSpace c || c == '\n' || c == '\r',
      length_dropWhile_le ..⟩)
  else (.ok false, ⟨input, Nat.le_refl _⟩)

/-- A text on several lines, behind its opening marks. -/
def longText (quote : Char) (escapes : Bool) : Reader (List Char) := do
  let _ ← newline
  loop () (fun (read : List Char) => do
    match ← peek with
    | none => bad
    | some c =>
        if c = quote then
          let (ended, marks) ← closingMarks quote
          if ended then return .stop (read.reverse ++ marks) else return .again (marks ++ read)
        else
          let _ ← next
          if c = '\\' && escapes then
            if ← lineEnd then return .again read else return .again ((← escape) :: read)
          else if c = '\r' then
            if (← peek) == some '\n' then return .again (c :: read) else bad
          else if c = '\n' then return .again (c :: read)
          else if isControl c then bad
          else return .again (c :: read)) []

/-! ## Keys -/

def isBare (c : Char) : Bool :=
  c.isAlphanum || c == '_' || c == '-'

def simpleKey : Reader String := do
  match ← peek with
  | some '"' =>
      let _ ← next
      return String.ofList (← basicText)
  | some '\'' =>
      let _ ← next
      return String.ofList (← literalText)
  | _ =>
      let key ← run isBare
      if key.isEmpty then bad else return String.ofList key

/-- Keys with points between them, and white space around each. -/
def dottedKey : Reader (List String) :=
  loop () (fun (read : List String) => do
    spaces
    let key ← simpleKey
    spaces
    if ← accept '.' then return .again (key :: read)
    else return .stop (key :: read).reverse) []

/-! ## Values -/

/-- What numbers, truth values and moments consist of. -/
def isAtom (c : Char) : Bool :=
  c.isAlphanum || c == '_' || c == '+' || c == '-' || c == '.' || c == ':'

/-- A date at the front may be followed by one space and a time. -/
def atom : Reader (List Char) := do
  let first ← run isAtom
  if first.length = 10 && afterDate first == some [] then
    let more ← fun input =>
      match input with
      | ' ' :: c :: rest =>
          if c.isDigit then
            (.ok true, ⟨c :: rest, Nat.le_succ _⟩)
          else (.ok false, ⟨' ' :: c :: rest, Nat.le_refl _⟩)
      | rest => (.ok false, ⟨rest, Nat.le_refl _⟩)
    if more then return first ++ ' ' :: (← run isAtom) else return first
  else return first

/-- The items of a list behind its opening bracket. -/
def items (item : Reader Toml) : Reader (List Toml) :=
  loop () (fun (read : List Toml) => do
    gap
    if ← accept ']' then return .stop read.reverse
    else
      let value ← item
      gap
      if ← accept ',' then return .again (value :: read)
      else
        expect ']'
        return .stop (value :: read).reverse) []

/-- The entries of an inline table behind its opening bracket. -/
def inlineEntries (item : Reader Toml) : Reader Entries :=
  loop () (fun (read : Entries) => do
    gap
    if ← accept '}' then return .stop read
    else
      let keys ← dottedKey
      expect '='
      spaces
      let value ← item
      let read ← ofOption (read.insert value keys .header)
      gap
      if ← accept ',' then return .again read
      else
        expect '}'
        return .stop read) []

/-- A value inside which at most `depth` brackets are open at once. -/
def value (depth : Nat) : Reader Toml := do
  match ← peek with
  | some '"' =>
      if ← acceptAll ['"', '"', '"'] then return .text (String.ofList (← longText '"' true))
      else
        let _ ← next
        return .text (String.ofList (← basicText))
  | some '\'' =>
      if ← acceptAll ['\'', '\'', '\''] then
        return .text (String.ofList (← longText '\'' false))
      else
        let _ ← next
        return .text (String.ofList (← literalText))
  | some '[' =>
      match depth with
      | 0 => bad
      | inner + 1 =>
          let _ ← next
          return .list (← items (value inner))
  | some '{' =>
      match depth with
      | 0 => bad
      | inner + 1 =>
          let _ ← next
          return .table (entriesToToml (← inlineEntries (value inner)))
  | _ => ofOption (scalar? (← atom))

/-- How many brackets may be open at once. -/
def maxDepth : Nat := 80

/-! ## Lines -/

/-- What was read of a document: its tables, and the path of the last header. -/
structure Draft where
  entries : Entries
  path : List String

/-- The rest of a line that opens a table. -/
def header (draft : Draft) : Reader Draft := do
  if ← accept '[' then
    let path ← dottedKey
    expect ']'
    expect ']'
    return { entries := ← ofOption (draft.entries.openElement path), path }
  else
    let path ← dottedKey
    expect ']'
    return { entries := ← ofOption (draft.entries.openTable path), path }

/-- A line that enters a value under a key. -/
def entry (draft : Draft) : Reader Draft := do
  let keys ← dottedKey
  expect '='
  spaces
  let value ← value maxDepth
  return { draft with entries := ← ofOption (draft.entries.insertAt draft.path keys value) }

/-- All lines of a document. -/
def lines : Reader Draft :=
  loop () (fun (draft : Draft) => do
    spaces
    let draft ← match ← peek with
      | none => pure draft
      | some '\n' => pure draft
      | some '\r' => pure draft
      | some '#' => pure draft
      | some '[' => do
          let _ ← next
          header draft
      | some _ => entry draft
    spaces
    comment
    if ← newline then return .again draft
    else
      match ← peek with
      | none => return .stop draft
      | some _ => bad) { entries := [], path := [] }

end Reader

/-- The entries of a document; a mark of the byte order in front of it is dropped. -/
def parse (document : String) : Option (List (String × Toml)) :=
  let text :=
    match document.toList with
    | '\ufeff' :: rest => rest
    | rest => rest
  match Reader.lines text with
  | (.ok draft, _) => some (entriesToToml draft.entries)
  | (.error _, _) => none

end FoodOrdering.Toml
