/-!
# Blank characters and comma lists

The characters with the Unicode property White_Space can be taken off the two ends of a text.
Every place that trims a header, a token, a role or a configuration entry uses this one set, so
that two readers of one text cannot disagree on what is blank.

A text is cut at every separator, so that it always has one segment more than separators.  A list
in a header or an environment variable keeps the trimmed segments that are not empty.
-/

namespace FoodOrdering.Text

/-! ## Blank characters -/

/-- The characters with the Unicode property White_Space. -/
def isBlank (c : Char) : Bool :=
  (0x09 ≤ c.val && c.val ≤ 0x0d) || c.val == 0x20 || c.val == 0x85 || c.val == 0xa0 ||
  c.val == 0x1680 || (0x2000 ≤ c.val && c.val ≤ 0x200a) || c.val == 0x2028 || c.val == 0x2029 ||
  c.val == 0x202f || c.val == 0x205f || c.val == 0x3000

/-- Drop the last characters as long as they satisfy `p`. -/
def dropEnd (p : Char → Bool) (text : List Char) : List Char :=
  (text.reverse.dropWhile p).reverse

/-- Drop the blank characters at both ends. -/
def trimChars (text : List Char) : List Char :=
  dropEnd isBlank (text.dropWhile isBlank)

/-- Drop the blank characters at both ends. -/
def trim (text : String) : String :=
  String.ofList (trimChars text.toList)

/-- Every character is blank; the empty text is blank. -/
def isBlankText (text : String) : Bool :=
  text.toList.all isBlank

/-! ## Segments -/

/-- The pieces of a text between its separators, in order, empty ones included. -/
def segments (separator : Char) : List Char → List (List Char)
  | [] => [[]]
  | c :: rest =>
      if c = separator then [] :: segments separator rest
      else
        match segments separator rest with
        | [] => [[c]]
        | first :: others => (c :: first) :: others

/-- The trimmed pieces between commas, without the empty ones. -/
def commaList (text : String) : List String :=
  (((segments ',' text.toList).map trimChars).filter (fun piece => !piece.isEmpty)).map
    String.ofList

theorem segments_ne_nil (separator : Char) (text : List Char) :
    segments separator text ≠ [] := by
  cases text with
  | nil => simp [segments]
  | cons c rest =>
      simp only [segments]
      split
      · simp
      · split <;> simp

/-- A separator between two texts separates their segments. -/
theorem segments_append_cons (separator : Char) (first second : List Char) :
    segments separator (first ++ separator :: second) =
      segments separator first ++ segments separator second := by
  induction first with
  | nil => simp [segments]
  | cons c rest ih =>
      by_cases h : c = separator
      · simp [segments, h, ih]
      · cases hs : segments separator rest with
        | nil => exact absurd hs (segments_ne_nil separator rest)
        | cons head tail => simp [segments, h, ih, hs]

end FoodOrdering.Text
