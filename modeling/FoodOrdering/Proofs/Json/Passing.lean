import FoodOrdering.Proofs.Json.Object
import FoodOrdering.Proofs.Json.Place

/-!
# Values passed over

A reader that succeeds has passed over one whole value: behind it as many brackets are open as
before it, and no quotation mark.
-/

namespace FoodOrdering.Json

open Reading Reader

variable {α : Type} {behind input middle rest : List UInt8} {mode : Mode} {depth : Nat} {byte : UInt8}

/-- Behind white space the input begins with this byte. -/
def Begins (input : List UInt8) (byte : UInt8) (rest : List UInt8) : Prop :=
  input.dropWhile isSpace = byte :: rest

theorem begins_of_token {after : { rest : List UInt8 // rest.length < input.length }}
    (h : token input = some (byte, after)) : Begins input byte after.1 := by
  unfold token at h
  split at h
  next => cases h
  next other others hdrop =>
    cases h
    exact hdrop

theorem gives_peekToken_dropWhile (input : List UInt8) :
    Gives peekToken input (.ok (input.dropWhile isSpace).head?) (input.dropWhile isSpace) :=
  ⟨rfl, rfl⟩

namespace Begins

theorem gives_peekToken (h : Begins input byte rest) :
    Gives peekToken input (.ok (some byte)) (byte :: rest) := by
  have hpeek := gives_peekToken_dropWhile input
  rw [h] at hpeek
  exact hpeek

theorem isSpace_eq (h : Begins input byte rest) : isSpace byte = false := by
  have hhead := List.head_dropWhile_not (p := isSpace) (l := input)
    (by rw [show input.dropWhile isSpace = byte :: rest from h]; exact List.cons_ne_nil byte rest)
  simpa [show input.dropWhile isSpace = byte :: rest from h] using hhead

theorem self (h : isSpace byte = false) : Begins (byte :: rest) byte rest :=
  List.dropWhile_cons_of_neg (by simp [h])

theorem unique {other : UInt8} (h : Begins input byte rest) (hother : Begins input other middle) :
    byte = other ∧ rest = middle :=
  List.cons.inj (h.symm.trans hother)

theorem ends_iff (h : Begins input byte rest) (hcalm : Calm mode depth) :
    Ends behind mode depth input ↔ Ends behind mode depth (byte :: rest) := by
  rw [← show input.dropWhile isSpace = byte :: rest from h]
  exact (ends_dropWhile hcalm).symm

/-- A comma or a colon. -/
theorem ends_filler (h : Begins input byte rest) (hfiller : isFiller byte = true)
    (hcalm : Calm mode depth) : Ends behind mode depth input ↔ Ends behind mode depth rest := by
  rw [h.ends_iff hcalm, Json.ends_filler hfiller hcalm]

theorem ends_closing (h : Begins input byte rest) (hbyte : byte = 0x5d ∨ byte = 0x7d) :
    Ends behind .outside (depth + 1) input ↔ Ends behind .outside depth rest := by
  rw [h.ends_iff (.outside (Nat.succ_pos depth)), Json.ends_closing hbyte]

theorem ends_mark (h : Begins input 0x22 rest) (hdepth : 0 < depth) :
    Ends behind .outside depth input ↔ Ends behind .inside depth rest := by
  rw [h.ends_iff (.outside hdepth), ends_outside_mark hdepth]

end Begins

/-- A reader that looks at the next byte first, and fails if there is none, has found one. -/
theorem exists_of_gives_peekToken_bind {next : Option UInt8 → Reader α} {value : α}
    (hnone : ∀ {input rest}, ¬ Gives (next none) input (.ok value) rest)
    (h : Gives (peekToken >>= next) input (.ok value) rest) :
    ∃ byte inner, Begins input byte inner ∧
      Gives (next (some byte)) (byte :: inner) (.ok value) rest := by
  rw [(gives_peekToken_dropWhile input).bind_iff] at h
  cases hdrop : input.dropWhile isSpace with
  | nil =>
      rw [hdrop] at h
      exact absurd h hnone
  | cons byte inner =>
      rw [hdrop] at h
      exact ⟨byte, inner, hdrop, h⟩

theorem exists_of_gives_memberValue {item : Reader α} {value : α}
    (h : Gives (memberValue item) input (.ok value) rest) :
    ∃ middle, Begins input 0x3a middle ∧ Gives item middle (.ok value) rest := by
  obtain ⟨byte, middle, hbegins, hbyte⟩ := exists_of_gives_peekToken_bind not_gives_fail h
  split at hbyte
  next heq =>
    cases heq
    exact ⟨middle, hbegins, (gives_next 0x3a middle).bind_iff.1 hbyte⟩
  next => exact absurd hbyte not_gives_fail

/-! ## Words -/

theorem wordAfter_eq (first : UInt8) : wordAfter first = literal (wordLetters first) := by
  unfold wordAfter wordLetters
  split
  next => rfl
  split
  next => rfl
  next => rfl

theorem gives_literal_iff {letters : List UInt8} :
    Gives (literal letters) input (.ok ()) rest ↔ input = letters ++ rest := by
  induction letters generalizing input with
  | nil =>
      constructor
      · intro h
        exact (gives_done_iff.1 h).2.symm
      · intro h
        exact gives_done_iff.2 ⟨rfl, h.symm⟩
  | cons letter others ih =>
      cases input with
      | nil =>
          constructor
          · intro h
            have hnext : Gives (next : Reader (Option UInt8)) [] (.ok none) [] := ⟨rfl, rfl⟩
            exact absurd (hnext.bind_iff.1 h) not_gives_fail
          · intro h
            cases h
      | cons byte middle =>
          unfold literal
          rw [(gives_next byte middle).bind_iff]
          dsimp only
          split
          next heq => rw [ih, heq, List.cons_append, List.cons.injEq, eq_self, true_and]
          next hne =>
            constructor
            · intro h
              exact absurd h not_gives_fail
            · intro h
              cases h
              exact absurd rfl hne

theorem ends_wordAfter (hdepth : 0 < depth) (hword : startsWord byte = true)
    (h : Gives (wordAfter byte) input (.ok ()) rest) :
    Ends behind .outside depth (byte :: input) ↔ Ends behind .outside depth rest := by
  rw [wordAfter_eq, gives_literal_iff] at h
  rw [ends_startsWord hdepth hword, ends_word hdepth, h]
  constructor
  · rintro ⟨other, hsame, hother⟩
    rw [List.append_cancel_left hsame]
    exact hother
  · intro hrest
    exact ⟨rest, rfl, hrest⟩

/-! ## Numbers -/

/-- Whatever comes of the reading, it takes bytes of numbers only. -/
def TakesNumeric {α : Type} (reading : Reader α) (input : List UInt8) : Prop :=
  ∃ taken, input = taken ++ (reading input).2.1 ∧ ∀ byte ∈ taken, isNumeric byte = true

section TakesNumeric

variable {α β : Type} {first : Reader α} {second : α → Reader β}

theorem takesNumeric_done (value : α) (input : List UInt8) : TakesNumeric (done value) input :=
  ⟨[], rfl, nofun⟩

theorem takesNumeric_fail (fault : Fault) (input : List UInt8) :
    TakesNumeric (fail fault : Reader α) input :=
  ⟨[], rfl, nofun⟩

theorem TakesNumeric.bind (h : TakesNumeric first input)
    (hnext : ∀ value rest, Gives first input (.ok value) rest → TakesNumeric (second value) rest) :
    TakesNumeric (first >>= second) input := by
  obtain ⟨taken, hinput, htaken⟩ := h
  have hfirst := gives_self first input
  cases hresult : (first input).1 with
  | error fault =>
      rw [hresult] at hfirst
      refine ⟨taken, ?_, htaken⟩
      rw [hfirst.bind_error.2]
      exact hinput
  | ok value =>
      rw [hresult] at hfirst
      obtain ⟨more, hmiddle, hmore⟩ := hnext value _ hfirst
      refine ⟨taken ++ more, ?_, ?_⟩
      · rw [(hfirst.bind (gives_self (second value) _)).2, List.append_assoc, ← hmiddle]
        exact hinput
      · intro byte hbyte
        rcases List.mem_append.1 hbyte with hold | hnew
        · exact htaken byte hold
        · exact hmore byte hnew

theorem takesNumeric_peek_bind {second : Option UInt8 → Reader β}
    (h : TakesNumeric (second input.head?) input) : TakesNumeric (peek >>= second) input := by
  refine TakesNumeric.bind ⟨[], rfl, nofun⟩ ?_
  rintro value rest ⟨⟨⟩, ⟨⟩⟩
  exact h

/-- A byte that was looked at before is taken. -/
theorem takesNumeric_next_bind {second : Option UInt8 → Reader β}
    (hhead : ∃ byte, input.head? = some byte ∧ isNumeric byte = true)
    (h : ∀ value rest, TakesNumeric (second value) rest) : TakesNumeric (next >>= second) input := by
  obtain ⟨byte, hbyte, hnumeric⟩ := hhead
  cases input with
  | nil => cases hbyte
  | cons other rest =>
      cases hbyte
      refine TakesNumeric.bind ⟨[byte], rfl, ?_⟩ fun value rest _ => h value rest
      exact fun _ hmem => List.mem_singleton.1 hmem ▸ hnumeric

end TakesNumeric

theorem isNumeric_of_isDigit (h : isDigit byte = true) : isNumeric byte = true := by
  simp [isNumeric, startsNumber, h]

theorem takesNumeric_digits (input : List UInt8) : TakesNumeric digits input := by
  refine TakesNumeric.bind ⟨input.takeWhile isDigit, ?_, ?_⟩ fun run rest _ =>
    takesNumeric_done _ rest
  · exact List.takeWhile_append_dropWhile.symm
  · intro byte hbyte
    exact isNumeric_of_isDigit (List.all_eq_true.1 List.all_takeWhile byte hbyte)

theorem takesNumeric_exponentDigits (input : List UInt8) : TakesNumeric exponentDigits input := by
  have hlast : ∀ (negative : Bool) input, TakesNumeric (do
      let run ← digits
      if run.isEmpty then fail .malformed
      else
        let size : Int := Nat.ofDigitChars 10 run 0
        return if negative then -size else size) input := by
    intro negative input
    refine (takesNumeric_digits input).bind fun run rest _ => ?_
    split
    · exact takesNumeric_fail _ rest
    · exact takesNumeric_done _ rest
  unfold exponentDigits
  refine takesNumeric_peek_bind ?_
  dsimp only
  split
  next hsign =>
    refine takesNumeric_next_bind ?_ fun _ rest => hlast _ rest
    rw [Bool.or_eq_true, beq_iff_eq, beq_iff_eq] at hsign
    rcases hsign with hminus | hplus
    · exact ⟨0x2d, hminus, rfl⟩
    · exact ⟨0x2b, hplus, rfl⟩
  next => exact hlast _ input

theorem takesNumeric_numberText (first : UInt8) (input : List UInt8) :
    TakesNumeric (Reader.numberText first) input := by
  unfold Reader.numberText
  refine (takesNumeric_digits input).bind fun run rest _ => ?_
  dsimp only
  generalize (if first == 0x2d then run else Char.ofNat first.toNat :: run) = whole
  split
  next => exact takesNumeric_fail _ rest
  -- Behind the whole part comes a fraction or none, and behind either an exponent or none.
  have hlast : ∀ fraction input, TakesNumeric (do
      let mark ← peek
      if mark == some 0x65 || mark == some 0x45 then
        let _ ← next
        let power ← exponentDigits
        return { negative := first == 0x2d, whole, fraction, exponent := some power : NumberText }
      else return { negative := first == 0x2d, whole, fraction, exponent := none }) input := by
    intro fraction input
    refine takesNumeric_peek_bind ?_
    split
    next hmark =>
      refine takesNumeric_next_bind ?_ fun _ rest => ?_
      · rw [Bool.or_eq_true, beq_iff_eq, beq_iff_eq] at hmark
        rcases hmark with hsmall | hlarge
        · exact ⟨0x65, hsmall, rfl⟩
        · exact ⟨0x45, hlarge, rfl⟩
      · exact (takesNumeric_exponentDigits rest).bind fun power last _ => takesNumeric_done _ last
    next => exact takesNumeric_done _ input
  refine takesNumeric_peek_bind ?_
  split
  next hpoint =>
    refine takesNumeric_next_bind ⟨0x2e, eq_of_beq hpoint, rfl⟩ fun _ rest => ?_
    refine (takesNumeric_digits rest).bind fun run last _ => ?_
    split
    next => exact (takesNumeric_fail _ last).bind fun _ more _ => hlast _ more
    next => exact hlast _ last
  next => exact hlast _ rest

theorem TakesNumeric.ends_iff {α : Type} {reading : Reader α} {result : Except Fault α}
    (h : TakesNumeric reading input) (hread : Gives reading input result rest)
    (hcalm : Calm mode depth) : Ends behind mode depth input ↔ Ends behind mode depth rest := by
  obtain ⟨taken, hinput, htaken⟩ := h
  rw [hread.2] at hinput
  rw [hinput]
  exact ends_fillers (fun byte hbyte => isFiller_of_isNumeric (htaken byte hbyte)) hcalm

/-! ## Texts -/

theorem exists_of_gives_fourHex {code : Nat} (h : Gives fourHex input (.ok code) rest) :
    ∃ first second third fourth, input = first :: second :: third :: fourth :: rest := by
  match input with
  | [] => cases h.1
  | [_] => cases h.1
  | [_, _] => cases h.1
  | [_, _, _] => cases h.1
  | first :: second :: third :: fourth :: others =>
      exact ⟨first, second, third, fourth, by rw [← h.2]; rfl⟩

theorem ne_of_simpleEscape? {value : UInt8} (h : simpleEscape? byte = some value) :
    byte ≠ 0x75 := by
  rintro rfl
  cases h

theorem exists_of_gives_next_bind {β : Type} {second : Option UInt8 → Reader β} {value : β}
    (hnone : ∀ rest, ¬ Gives (second none) [] (.ok value) rest)
    (h : Gives (next >>= second) input (.ok value) rest) :
    ∃ byte others, input = byte :: others ∧ Gives (second (some byte)) others (.ok value) rest := by
  cases input with
  | nil =>
      have hnext : Gives (next : Reader (Option UInt8)) [] (.ok none) [] := ⟨rfl, rfl⟩
      exact absurd (hnext.bind_iff.1 h) (hnone rest)
  | cons byte others => exact ⟨byte, others, rfl, (gives_next byte others).bind_iff.1 h⟩

theorem ends_skipEscape (h : Gives skipEscape input (.ok ()) rest) :
    Ends behind .escaped depth input ↔ Ends behind .inside depth rest := by
  obtain ⟨byte, others, rfl, hbyte⟩ := exists_of_gives_next_bind (fun _ => not_gives_fail) h
  dsimp only at hbyte
  split at hbyte
  next hsimple =>
    obtain ⟨value, hvalue⟩ := Option.isSome_iff_exists.1 hsimple
    rw [(gives_done_iff.1 hbyte).2, ends_escaped_of_ne (ne_of_simpleEscape? hvalue)]
  split at hbyte
  next heq =>
    obtain ⟨code, middle, hcode, hdone⟩ := gives_bind_ok_iff.1 hbyte
    obtain ⟨_, _, _, _, rfl⟩ := exists_of_gives_fourHex hcode
    rw [(gives_done_iff.1 hdone).2, heq, ends_escaped_digits]
  next => exact absurd hbyte not_gives_fail

theorem ends_escapedCode {value : List UInt8} (h : Gives escapedCode input (.ok value) rest) :
    Ends behind .escaped depth (0x75 :: input) ↔ Ends behind .inside depth rest := by
  obtain ⟨code, middle, hcode, hrest⟩ := gives_bind_ok_iff.1 h
  obtain ⟨_, _, _, _, rfl⟩ := exists_of_gives_fourHex hcode
  rw [ends_escaped_digits]
  split at hrest
  next => exact absurd hrest not_gives_fail
  split at hrest
  next => rw [(gives_done_iff.1 hrest).2]
  -- A leading surrogate is followed by a second escape.
  obtain ⟨slash, others, rfl, hslash⟩ := exists_of_gives_next_bind (fun _ => not_gives_fail) hrest
  dsimp only at hslash
  split at hslash
  next heq =>
    cases heq
    obtain ⟨mark, others, rfl, hmark⟩ := exists_of_gives_next_bind (fun _ => not_gives_fail) hslash
    split at hmark
    next heq =>
      cases heq
      obtain ⟨low, last, hlow, hdone⟩ := gives_bind_ok_iff.1 hmark
      obtain ⟨_, _, _, _, rfl⟩ := exists_of_gives_fourHex hlow
      rw [ends_inside_backslash, ends_escaped_digits]
      split at hdone
      next => rw [(gives_done_iff.1 hdone).2]
      next => exact absurd hdone not_gives_fail
    next => exact absurd hmark not_gives_fail
  next => exact absurd hslash not_gives_fail

theorem ends_escape {value : List UInt8} (h : Gives escape input (.ok value) rest) :
    Ends behind .escaped depth input ↔ Ends behind .inside depth rest := by
  obtain ⟨byte, others, rfl, hbyte⟩ := exists_of_gives_next_bind (fun _ => not_gives_fail) h
  dsimp only at hbyte
  split at hbyte
  next hsimple =>
    rw [(gives_done_iff.1 hbyte).2, ends_escaped_of_ne (ne_of_simpleEscape? hsimple)]
  split at hbyte
  next heq => rw [heq, ends_escapedCode hbyte]
  next => exact absurd hbyte not_gives_fail

theorem ends_skipTextBytes (whole : List UInt8) (hle : input.length ≤ whole.length)
    (h : (skipTextBytes whole input hle).1 = .ok ()) :
    Ends behind .inside depth input ↔
      Ends behind .outside depth (skipTextBytes whole input hle).2.1 := by
  fun_induction skipTextBytes whole input hle with
  | case1 => cases h
  | case2 rest => exact ends_inside_mark
  | case3 => cases h
  | case4 rest _ after hescape _ _ _ _ _ ih =>
      have hafter := gives_self skipEscape rest
      rw [hescape] at hafter
      rw [ends_inside_backslash, ends_skipEscape hafter, ih h]
  | case5 => cases h
  | case6 byte rest _ _ hmark hslash _ _ ih => rw [ends_inside_of_ne hmark hslash, ih h]

theorem ends_textBytes (whole read : List UInt8) (hle : input.length ≤ whole.length)
    {value : List UInt8} (h : (textBytes whole read input hle).1 = .ok value) :
    Ends behind .inside depth input ↔
      Ends behind .outside depth (textBytes whole read input hle).2.1 := by
  fun_induction textBytes whole read input hle with
  | case1 => cases h
  | case2 => exact ends_inside_mark
  | case3 => cases h
  | case4 read rest _ after hescape _ _ _ _ _ ih =>
      have hafter := gives_self escape rest
      rw [hescape] at hafter
      rw [ends_inside_backslash, ends_escape hafter, ih h]
  | case5 => cases h
  | case6 read byte rest _ _ hmark hslash _ _ ih => rw [ends_inside_of_ne hmark hslash, ih h]

theorem ends_skipText (h : Gives skipText input (.ok ()) rest) :
    Ends behind .inside depth input ↔ Ends behind .outside depth rest := by
  rw [ends_skipTextBytes input (Rest.length_le_self input) h.1, ← h.2]
  rfl

theorem ends_textBody {value : String} (h : Gives textBody input (.ok value) rest) :
    Ends behind .inside depth input ↔ Ends behind .outside depth rest := by
  obtain ⟨bytes, middle, hbytes, h⟩ := gives_bind_ok_iff.1 h
  rw [ends_textBytes input [] (Rest.length_le_self input) hbytes.1]
  obtain ⟨_, rfl⟩ := hbytes
  split at h
  next => rw [(gives_done_iff.1 h).2]
  next => exact absurd h not_gives_fail

/-! ## Skipped values -/

/-- What a skipping reader passes over, bracket by bracket. -/
inductive Skipped : SkipState → List Bracket → List UInt8 → List UInt8 → Prop
  | done (rest : List UInt8) : Skipped .behind [] rest rest
  | atom {stack : List Bracket} {input inner left rest : List UInt8} {byte : UInt8} :
      Begins input byte inner → byte ≠ 0x5b → byte ≠ 0x7b →
        Gives (skipAtom byte) inner (.ok ()) left → Skipped .behind stack left rest →
          Skipped .before stack input rest
  | emptyList {stack : List Bracket} {input inner after rest : List UInt8} :
      Begins input 0x5b inner → Begins inner 0x5d after → Skipped .behind stack after rest →
        Skipped .before stack input rest
  | list {stack : List Bracket} {input inner rest : List UInt8} :
      Begins input 0x5b inner → Skipped .before (.list :: stack) inner rest →
        Skipped .before stack input rest
  | emptyObject {stack : List Bracket} {input inner after rest : List UInt8} :
      Begins input 0x7b inner → Begins inner 0x7d after → Skipped .behind stack after rest →
        Skipped .before stack input rest
  | object {stack : List Bracket} {input inner name left rest : List UInt8} :
      Begins input 0x7b inner → Begins inner 0x22 name → Gives skipName name (.ok ()) left →
        Skipped .before (.object :: stack) left rest → Skipped .before stack input rest
  | close {bracket : Bracket} {outer : List Bracket} {input after rest : List UInt8} :
      Begins input bracket.closing after → Skipped .behind outer after rest →
        Skipped .behind (bracket :: outer) input rest
  | item {outer : List Bracket} {input after rest : List UInt8} :
      Begins input 0x2c after → Skipped .before (.list :: outer) after rest →
        Skipped .behind (.list :: outer) input rest
  | member {outer : List Bracket} {input after name left rest : List UInt8} :
      Begins input 0x2c after → Begins after 0x22 name → Gives skipName name (.ok ()) left →
        Skipped .before (.object :: outer) left rest → Skipped .behind (.object :: outer) input rest

theorem gives_of_eq {α : Type} {reading : Reader α} {result : Except Fault α} {after : Rest input}
    (h : reading input = (result, after)) : Gives reading input result after.1 := by
  unfold Gives
  rw [h]
  exact ⟨rfl, rfl⟩

theorem skipped_skipFrom {whole : List UInt8} {state : SkipState} {stack : List Bracket}
    (hle : input.length ≤ whole.length) (h : (skipFrom whole state stack input hle).1 = .ok ()) :
    Skipped state stack input (skipFrom whole state stack input hle).2.1 := by
  fun_induction skipFrom whole state stack input hle with
  | case1 input => exact .done input
  | case4 input _ stack _ _ _ _ _ hinner hafter ih =>
      exact .emptyList (begins_of_token hinner) (begins_of_token hafter) (ih h)
  | case5 input _ stack _ _ _ _ _ _ _ _ hinner ih =>
      exact .list (begins_of_token hinner) (ih h)
  | case7 input _ stack _ _ _ _ _ hinner _ hafter ih =>
      exact .emptyObject (begins_of_token hinner) (begins_of_token hafter) (ih h)
  | case9 input _ stack _ _ _ _ _ _ _ hname _ hinner _ hafter _ ih =>
      exact .object (begins_of_token hinner) (begins_of_token hafter) (gives_of_eq hname) (ih h)
  | case12 input _ stack _ _ hinner _ hlist hobject _ _ hatom _ ih =>
      exact .atom (begins_of_token hinner) hlist hobject (gives_of_eq hatom) (ih h)
  | case14 input _ bracket outer _ _ _ hinner ih =>
      exact .close (begins_of_token hinner) (ih h)
  | case15 input _ outer _ _ _ hinner _ ih => exact .item (begins_of_token hinner) (ih h)
  | case18 input _ outer _ _ _ _ _ _ _ hname _ hinner _ hafter ih =>
      exact .member (begins_of_token hinner) (begins_of_token hafter) (gives_of_eq hname) (ih h)
  | _ => cases h

theorem skipped_skipValue (h : Gives skipValue input (.ok ()) rest) :
    Skipped .before [] input rest := by
  have hskipped := skipped_skipFrom (Rest.length_le_self input) h.1
  obtain ⟨_, rfl⟩ := h
  exact hskipped

theorem startsWord_iff : startsWord byte = true ↔ byte = 0x6e ∨ byte = 0x74 ∨ byte = 0x66 := by
  rw [startsWord, Bool.or_eq_true, Bool.or_eq_true, beq_iff_eq, beq_iff_eq, beq_iff_eq, or_assoc]

theorem isNumeric_of_startsNumber (h : startsNumber byte = true) : isNumeric byte = true := by
  simp [isNumeric, h]

theorem ends_number {result : Except Fault NumberText} (h : startsNumber byte = true)
    (hread : Gives (Reader.numberText byte) input result rest) (hcalm : Calm mode depth) :
    Ends behind mode depth (byte :: input) ↔ Ends behind mode depth rest := by
  rw [ends_filler (isFiller_of_isNumeric (isNumeric_of_startsNumber h)) hcalm,
    (takesNumeric_numberText byte input).ends_iff hread hcalm]

theorem ends_skipAtom (hdepth : 0 < depth) (h : Gives (skipAtom byte) input (.ok ()) rest) :
    Ends behind .outside depth (byte :: input) ↔ Ends behind .outside depth rest := by
  unfold skipAtom at h
  split at h
  next hword => exact ends_wordAfter hdepth (startsWord_iff.2 hword) h
  split at h
  next hmark => rw [hmark, ends_outside_mark hdepth, ends_skipText h]
  split at h
  next hnumber =>
    obtain ⟨number, middle, htext, hdone⟩ := gives_bind_ok_iff.1 h
    rw [ends_number hnumber htext (.outside hdepth), (gives_done_iff.1 hdone).2]
  next => exact absurd h not_gives_fail

theorem ends_skipName (hdepth : 0 < depth) (h : Gives skipName input (.ok ()) rest) :
    Ends behind .inside depth input ↔ Ends behind .outside depth rest := by
  obtain ⟨_, middle, htext, hvalue⟩ := gives_bind_ok_iff.1 h
  obtain ⟨last, hcolon, hdone⟩ := exists_of_gives_memberValue hvalue
  rw [ends_skipText htext, hcolon.ends_filler rfl (.outside hdepth), (gives_done_iff.1 hdone).2]

theorem closing_cases (bracket : Bracket) : bracket.closing = 0x5d ∨ bracket.closing = 0x7d := by
  cases bracket with
  | list => exact .inl rfl
  | object => exact .inr rfl

theorem Skipped.ends_iff {state : SkipState} {stack : List Bracket}
    (h : Skipped state stack input rest) (hopen : state = .before → 0 < depth + stack.length) :
    Ends behind .outside (depth + stack.length) input ↔ Ends behind .outside depth rest := by
  have hmore : ∀ (bracket : Bracket) (outer : List Bracket),
      0 < depth + (bracket :: outer).length := fun _ outer => Nat.succ_pos (depth + outer.length)
  induction h with
  | done => exact Iff.rfl
  | atom hbyte _ _ hatom _ ih =>
      have hrest := ih nofun
      rw [hbyte.ends_iff (.outside (hopen rfl)), ends_skipAtom (hopen rfl) hatom]
      exact hrest
  | emptyList hbyte hclose _ ih =>
      have hrest := ih nofun
      rw [hbyte.ends_iff (.outside (hopen rfl)), ends_opening (hopen rfl) (.inl rfl),
        hclose.ends_closing (.inl rfl)]
      exact hrest
  | @list stack _ _ _ hbyte _ ih =>
      have hrest := ih fun _ => hmore .list stack
      rw [hbyte.ends_iff (.outside (hopen rfl)), ends_opening (hopen rfl) (.inl rfl)]
      exact hrest
  | emptyObject hbyte hclose _ ih =>
      have hrest := ih nofun
      rw [hbyte.ends_iff (.outside (hopen rfl)), ends_opening (hopen rfl) (.inr rfl),
        hclose.ends_closing (.inr rfl)]
      exact hrest
  | @object stack _ _ _ _ _ hbyte hmark hname _ ih =>
      have hinner := hmore .object stack
      have hrest := ih fun _ => hinner
      rw [hbyte.ends_iff (.outside (hopen rfl)), ends_opening (hopen rfl) (.inr rfl),
        hmark.ends_mark (Nat.succ_pos _), ends_skipName (Nat.succ_pos _) hname]
      exact hrest
  | @close bracket _ _ _ _ hclose _ ih =>
      have hrest := ih nofun
      rw [List.length_cons, ← Nat.add_assoc, hclose.ends_closing (closing_cases bracket)]
      exact hrest
  | @item outer _ _ _ hcomma _ ih =>
      have hrest := ih fun _ => hmore .list outer
      rw [hcomma.ends_filler rfl (.outside (hmore .list outer))]
      exact hrest
  | @member outer _ _ _ _ _ hcomma hmark hname _ ih =>
      have hinner := hmore .object outer
      have hrest := ih fun _ => hinner
      rw [hcomma.ends_filler rfl (.outside hinner), hmark.ends_mark hinner,
        ends_skipName hinner hname]
      exact hrest

theorem ends_skipValue (hdepth : 0 < depth) (h : Gives skipValue input (.ok ()) rest) :
    Ends behind .outside depth input ↔ Ends behind .outside depth rest :=
  (skipped_skipValue h).ends_iff fun _ => hdepth

end FoodOrdering.Json
