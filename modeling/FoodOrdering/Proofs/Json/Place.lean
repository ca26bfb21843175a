import Mathlib.Data.List.TakeWhile
import FoodOrdering.Json.Reader.Skip
import FoodOrdering.Proofs.Reading

/-!
# Places in a document

Where a byte of a document stands follows from the bytes before it: between how many open brackets,
and inside or outside of quotation marks.  Readers that go on after a failure may lose their place;
what is known here does not depend on any of them.
-/

namespace FoodOrdering.Json

open Reading Reader

/-- How the next byte is to be taken. -/
inductive Mode where
  | outside
  /-- These letters of a word are still to come. -/
  | word (letter : UInt8) (others : List UInt8)
  /-- Between quotation marks. -/
  | inside
  /-- Behind a backslash. -/
  | escaped
  /-- A hexadecimal digit is to come, and so many others. -/
  | hex (others : Nat)

namespace Mode

/-- Before the rest of a word. -/
def before : List UInt8 → Mode
  | [] => .outside
  | letter :: others => .word letter others

end Mode

/-- The letters of `null`, `true` and `false` behind their first one. -/
def wordLetters (first : UInt8) : List UInt8 :=
  if first = 0x6e then [0x75, 0x6c, 0x6c]
  else if first = 0x74 then [0x72, 0x75, 0x65]
  else [0x61, 0x6c, 0x73, 0x65]

def startsWord (byte : UInt8) : Bool :=
  byte == 0x6e || byte == 0x74 || byte == 0x66

/-- A byte that may belong to a number. -/
def isNumeric (byte : UInt8) : Bool :=
  startsNumber byte || byte == 0x2e || byte == 0x2b || byte == 0x65 || byte == 0x45

/-- A byte of a number, a blank, a comma or a colon. -/
def isFiller (byte : UInt8) : Bool :=
  isNumeric byte || isSpace byte || byte == 0x2c || byte == 0x3a

/-- How the byte behind this one is to be taken, and how many brackets are open there. -/
def step : Mode → Nat → UInt8 → Option (Mode × Nat)
  | .outside, depth, byte =>
      if byte = 0x22 then some (.inside, depth)
      else if byte = 0x5b ∨ byte = 0x7b then some (.outside, depth + 1)
      else if byte = 0x5d ∨ byte = 0x7d then some (.outside, depth - 1)
      else if startsWord byte then some (.before (wordLetters byte), depth)
      else if isFiller byte then some (.outside, depth)
      else none
  | .word letter others, depth, byte =>
      if byte = letter then some (.before others, depth) else none
  | .inside, depth, byte =>
      if byte = 0x22 then some (.outside, depth)
      else if byte = 0x5c then some (.escaped, depth)
      else some (.inside, depth)
  | .escaped, depth, byte => if byte = 0x75 then some (.hex 3, depth) else some (.inside, depth)
  | .hex 0, depth, _ => some (.inside, depth)
  | .hex (others + 1), depth, _ => some (.hex others, depth)

/-- Something is still open. -/
def IsOpen (mode : Mode) (depth : Nat) : Prop :=
  mode = .outside → 0 < depth

/-- Behind the place where all that is open has been closed, this is left. -/
inductive Ends (behind : List UInt8) : Mode → Nat → List UInt8 → Prop
  | here : Ends behind .outside 0 behind
  | byte {mode next : Mode} {depth more : Nat} {byte : UInt8} {rest : List UInt8} :
      IsOpen mode depth → step mode depth byte = some (next, more) → Ends behind next more rest →
        Ends behind mode depth (byte :: rest)

variable {behind rest : List UInt8} {mode : Mode} {depth : Nat} {byte : UInt8}

theorem isOpen_of_pos (h : 0 < depth) : IsOpen mode depth :=
  fun _ => h

theorem isOpen_inside : IsOpen .inside depth :=
  fun h => Mode.noConfusion h

theorem isOpen_escaped : IsOpen .escaped depth :=
  fun h => Mode.noConfusion h

theorem isOpen_hex (others : Nat) : IsOpen (.hex others) depth :=
  fun h => Mode.noConfusion h

theorem isOpen_word (letter : UInt8) (others : List UInt8) : IsOpen (.word letter others) depth :=
  fun h => Mode.noConfusion h

theorem not_ends_nil (hopen : IsOpen mode depth) : ¬ Ends behind mode depth [] := by
  intro h
  cases h with
  | here => exact absurd (hopen rfl) (Nat.lt_irrefl 0)

theorem ends_cons_iff (hopen : IsOpen mode depth) :
    Ends behind mode depth (byte :: rest) ↔
      ∃ next more, step mode depth byte = some (next, more) ∧ Ends behind next more rest := by
  constructor
  · intro h
    cases h with
    | here => exact absurd (hopen rfl) (Nat.lt_irrefl 0)
    | byte _ hstep hrest => exact ⟨_, _, hstep, hrest⟩
  · rintro ⟨next, more, hstep, hrest⟩
    exact .byte hopen hstep hrest

theorem ends_of_step {next : Mode} {more : Nat} (hopen : IsOpen mode depth)
    (hstep : step mode depth byte = some (next, more)) :
    Ends behind mode depth (byte :: rest) ↔ Ends behind next more rest := by
  rw [ends_cons_iff hopen, hstep]
  constructor
  · rintro ⟨_, _, ⟨rfl⟩, h⟩
    exact h
  · intro h
    exact ⟨next, more, rfl, h⟩

/-- All is closed exactly where nothing is open. -/
theorem ends_zero_iff : Ends behind .outside 0 rest ↔ rest = behind := by
  constructor
  · intro h
    cases h with
    | here => rfl
    | byte hopen => exact absurd (hopen rfl) (Nat.lt_irrefl 0)
  · rintro rfl
    exact .here

/-! ## Inside quotation marks -/

theorem ends_inside_mark :
    Ends behind .inside depth (0x22 :: rest) ↔ Ends behind .outside depth rest :=
  ends_of_step isOpen_inside rfl

theorem ends_inside_backslash :
    Ends behind .inside depth (0x5c :: rest) ↔ Ends behind .escaped depth rest :=
  ends_of_step isOpen_inside rfl

theorem ends_inside_of_ne (hmark : byte ≠ 0x22) (hslash : byte ≠ 0x5c) :
    Ends behind .inside depth (byte :: rest) ↔ Ends behind .inside depth rest :=
  ends_of_step isOpen_inside (by rw [step, if_neg hmark, if_neg hslash])

theorem ends_escaped_of_ne (h : byte ≠ 0x75) :
    Ends behind .escaped depth (byte :: rest) ↔ Ends behind .inside depth rest :=
  ends_of_step isOpen_escaped (by rw [step, if_neg h])

theorem ends_escaped_digits {first second third fourth : UInt8} :
    Ends behind .escaped depth (0x75 :: first :: second :: third :: fourth :: rest) ↔
      Ends behind .inside depth rest := by
  rw [ends_of_step isOpen_escaped rfl, ends_of_step (isOpen_hex 3) rfl,
    ends_of_step (isOpen_hex 2) rfl, ends_of_step (isOpen_hex 1) rfl,
    ends_of_step (isOpen_hex 0) rfl]

/-- Four digits stand behind the letter of an escape. -/
theorem exists_of_ends_escaped (h : Ends behind .escaped depth (0x75 :: rest)) :
    ∃ first second third fourth others, rest = first :: second :: third :: fourth :: others := by
  rw [ends_of_step isOpen_escaped rfl] at h
  match rest with
  | [] => exact absurd h (not_ends_nil (isOpen_hex 3))
  | [_] => exact absurd ((ends_of_step (isOpen_hex 3) rfl).1 h) (not_ends_nil (isOpen_hex 2))
  | [_, _] =>
      rw [ends_of_step (isOpen_hex 3) rfl, ends_of_step (isOpen_hex 2) rfl] at h
      exact absurd h (not_ends_nil (isOpen_hex 1))
  | [_, _, _] =>
      rw [ends_of_step (isOpen_hex 3) rfl, ends_of_step (isOpen_hex 2) rfl, ends_of_step (isOpen_hex 1) rfl] at h
      exact absurd h (not_ends_nil (isOpen_hex 0))
  | first :: second :: third :: fourth :: others =>
      exact ⟨first, second, third, fourth, others, rfl⟩

/-! ## Outside of quotation marks -/

theorem ends_outside_mark (hdepth : 0 < depth) :
    Ends behind .outside depth (0x22 :: rest) ↔ Ends behind .inside depth rest :=
  ends_of_step (isOpen_of_pos hdepth) rfl

theorem ends_opening (hdepth : 0 < depth) (h : byte = 0x5b ∨ byte = 0x7b) :
    Ends behind .outside depth (byte :: rest) ↔ Ends behind .outside (depth + 1) rest := by
  rcases h with rfl | rfl
  · exact ends_of_step (isOpen_of_pos hdepth) rfl
  · exact ends_of_step (isOpen_of_pos hdepth) rfl

theorem ends_closing (h : byte = 0x5d ∨ byte = 0x7d) :
    Ends behind .outside (depth + 1) (byte :: rest) ↔ Ends behind .outside depth rest := by
  have hopen : IsOpen .outside (depth + 1) := isOpen_of_pos (Nat.succ_pos depth)
  rcases h with rfl | rfl
  · exact ends_of_step hopen rfl
  · exact ends_of_step hopen rfl

theorem ne_of_isFiller {other : UInt8} (h : isFiller byte = true)
    (hother : isFiller other = false) : byte ≠ other := by
  rintro rfl
  rw [h] at hother
  cases hother

theorem step_filler (h : isFiller byte = true) :
    step .outside depth byte = some (.outside, depth) := by
  have hne : ∀ other, isFiller other = false → byte ≠ other := fun _ => ne_of_isFiller h
  have hword : startsWord byte = false := by
    simp [startsWord, hne 0x6e rfl, hne 0x74 rfl, hne 0x66 rfl]
  simp [step, h, hword, hne 0x22 rfl, hne 0x5b rfl, hne 0x7b rfl, hne 0x5d rfl, hne 0x7d rfl]

/-- Inside a text, or between open brackets and outside of any text. -/
inductive Calm : Mode → Nat → Prop
  | inside {depth : Nat} : Calm .inside depth
  | outside {depth : Nat} : 0 < depth → Calm .outside depth

/-- A filler changes nothing, whichever side of a quotation mark it stands on. -/
theorem ends_filler (h : isFiller byte = true) (hcalm : Calm mode depth) :
    Ends behind mode depth (byte :: rest) ↔ Ends behind mode depth rest := by
  cases hcalm with
  | inside => exact ends_inside_of_ne (ne_of_isFiller h rfl) (ne_of_isFiller h rfl)
  | outside hdepth => exact ends_of_step (isOpen_of_pos hdepth) (step_filler h)

theorem ends_fillers {fillers : List UInt8} (h : ∀ byte ∈ fillers, isFiller byte = true)
    (hcalm : Calm mode depth) :
    Ends behind mode depth (fillers ++ rest) ↔ Ends behind mode depth rest := by
  induction fillers with
  | nil => exact Iff.rfl
  | cons byte others ih =>
      have hothers := ih fun other hother => h other (List.mem_cons_of_mem byte hother)
      rw [List.cons_append, ends_filler (h byte List.mem_cons_self) hcalm, hothers]

theorem isFiller_of_isSpace (h : isSpace byte = true) : isFiller byte = true := by
  simp [isFiller, h]

theorem isFiller_of_isNumeric (h : isNumeric byte = true) : isFiller byte = true := by
  simp [isFiller, h]

theorem ends_dropWhile (hcalm : Calm mode depth) :
    Ends behind mode depth (rest.dropWhile isSpace) ↔ Ends behind mode depth rest := by
  conv => rhs; rw [← @List.takeWhile_append_dropWhile _ isSpace rest]
  refine (ends_fillers (fun byte hbyte => isFiller_of_isSpace ?_) hcalm).symm
  exact List.all_eq_true.1 List.all_takeWhile byte hbyte

theorem not_ends_of_blank (hblank : rest.all isSpace = true) (hcalm : Calm mode depth) :
    ¬ Ends behind mode depth rest := by
  have hdrop : rest.dropWhile isSpace = [] :=
    List.dropWhile_eq_nil_iff.2 (List.all_eq_true.1 hblank)
  rw [← ends_dropWhile hcalm, hdrop]
  apply not_ends_nil
  cases hcalm with
  | inside => exact isOpen_inside
  | outside hdepth => exact isOpen_of_pos hdepth

theorem ends_word (hdepth : 0 < depth) {letters input : List UInt8} :
    Ends behind (.before letters) depth input ↔
      ∃ rest, input = letters ++ rest ∧ Ends behind .outside depth rest := by
  induction letters generalizing input with
  | nil =>
      constructor
      · intro h
        exact ⟨input, rfl, h⟩
      · rintro ⟨_, rfl, h⟩
        exact h
  | cons letter others ih =>
      have hopen : IsOpen (.before (letter :: others)) depth := isOpen_of_pos hdepth
      constructor
      · intro h
        cases input with
        | nil => exact absurd h (not_ends_nil hopen)
        | cons byte rest =>
            obtain ⟨next, more, hstep, hrest⟩ := (ends_cons_iff hopen).1 h
            simp only [Mode.before, step] at hstep
            split at hstep
            next heq =>
              cases hstep
              obtain ⟨last, rfl, hlast⟩ := ih.1 hrest
              exact ⟨last, by rw [heq, List.cons_append], hlast⟩
            next => cases hstep
      · rintro ⟨last, rfl, hlast⟩
        exact (ends_cons_iff hopen).2 ⟨.before others, depth, by simp [Mode.before, step],
          ih.2 ⟨last, rfl, hlast⟩⟩

theorem ends_startsWord (hdepth : 0 < depth) (h : startsWord byte = true) :
    Ends behind .outside depth (byte :: rest) ↔
      Ends behind (.before (wordLetters byte)) depth rest := by
  simp only [startsWord, Bool.or_eq_true, beq_iff_eq] at h
  rcases h with (rfl | rfl) | rfl
  · exact ends_of_step (isOpen_of_pos hdepth) rfl
  · exact ends_of_step (isOpen_of_pos hdepth) rfl
  · exact ends_of_step (isOpen_of_pos hdepth) rfl

/-- No other byte stands outside of quotation marks. -/
theorem not_ends_of_step (hdepth : 0 < depth) (h : step .outside depth byte = none) :
    ¬ Ends behind .outside depth (byte :: rest) := by
  rw [ends_cons_iff (isOpen_of_pos hdepth), h]
  rintro ⟨_, _, hnone, _⟩
  cases hnone

/-! ## Places seen from farther out -/

/-- Brackets farther out do not change what a byte does. -/
theorem step_add {next : Mode} {more : Nat} (outer : Nat) (hopen : IsOpen mode depth)
    (h : step mode depth byte = some (next, more)) :
    step mode (depth + outer) byte = some (next, more + outer) := by
  cases mode with
  | outside =>
      have hdepth : 0 < depth := hopen rfl
      grind [step]
  | word letter others => grind [step]
  | inside => grind [step]
  | escaped => grind [step]
  | hex others =>
      cases others with
      | zero => grind [step]
      | succ others => grind [step]

/-- What is behind a value inside of brackets is followed by what is behind the brackets. -/
theorem Ends.trans {middle input : List UInt8} {outer : Nat} (h : Ends middle mode depth input)
    (hdepth : 0 < outer) (hmiddle : Ends behind .outside outer middle) :
    Ends behind mode (depth + outer) input := by
  induction h with
  | here =>
      rw [Nat.zero_add]
      exact hmiddle
  | byte hopen hstep _ ih =>
      exact .byte (isOpen_of_pos (Nat.lt_of_lt_of_le hdepth (Nat.le_add_left ..)))
        (step_add outer hopen hstep) ih

end FoodOrdering.Json
