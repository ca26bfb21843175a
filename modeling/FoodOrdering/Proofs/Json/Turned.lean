import FoodOrdering.Proofs.Json.Straying

/-!
# Readers on the wrong side of a quotation mark

A reader that lost its place inside a text takes texts for what stands between texts and the other
way round.  As long as it succeeds it stays on the wrong side, and what it takes for a text is made
of brackets, numbers, words, commas and colons only.
-/

namespace FoodOrdering.Json

open Reading Reader

variable {behind input rest : List UInt8} {mode : Mode} {depth : Nat} {byte : UInt8}

/-- Bytes that neither begin nor end a text, and no escape. -/
def NoMark (letters : List UInt8) : Prop :=
  ∀ letter ∈ letters, letter ≠ 0x22 ∧ letter ≠ 0x5c

theorem noMark_wordLetters (first : UInt8) : NoMark (wordLetters first) := by
  unfold wordLetters
  split
  next => simp [NoMark]
  split
  next => simp [NoMark]
  next => simp [NoMark]

/-- The input goes on outside of quotation marks, although it is read as a text. -/
inductive Turned (behind : List UInt8) (input : List UInt8) : Prop
  | outside {letters : List UInt8} {depth : Nat} :
      NoMark letters → Ends behind (.before letters) depth input → Turned behind input
  | blank : input.all isSpace = true → Turned behind input

/-- The input goes on inside a text, although it is read as something else. -/
def Inside (behind input : List UInt8) : Prop :=
  ∃ depth, Ends behind .inside depth input

theorem turned_of_ends (h : Ends behind .outside depth input) : Turned behind input :=
  @Turned.outside _ _ [] depth nofun h

theorem turned_of_step {next : Mode} {more : Nat} (h : step .outside depth byte = some (next, more))
    (hmark : byte ≠ 0x22) (hrest : Ends behind next more rest) :
    byte ≠ 0x5c ∧ Turned behind rest := by
  rw [step, if_neg hmark] at h
  split at h
  next hbyte =>
    cases h
    refine ⟨?_, turned_of_ends hrest⟩
    rcases hbyte with rfl | rfl
    · decide
    · decide
  split at h
  next hbyte =>
    cases h
    refine ⟨?_, turned_of_ends hrest⟩
    rcases hbyte with rfl | rfl
    · decide
    · decide
  split at h
  next hword =>
    cases h
    refine ⟨?_, .outside (noMark_wordLetters byte) hrest⟩
    rintro rfl
    cases hword
  split at h
  next hfiller =>
    cases h
    exact ⟨ne_of_isFiller hfiller rfl, turned_of_ends hrest⟩
  next => cases h

/-- The next quotation mark leads into a text, and there is no backslash before it. -/
theorem Turned.cons (hblank : behind.all isSpace = true) (h : Turned behind (byte :: rest)) :
    byte = 0x22 ∧ Inside behind rest ∨ byte ≠ 0x22 ∧ byte ≠ 0x5c ∧ Turned behind rest := by
  have hspace : (byte :: rest).all isSpace = true → byte ≠ 0x22 ∧ byte ≠ 0x5c ∧ Turned behind rest := by
    intro hall
    rw [List.all_cons, Bool.and_eq_true] at hall
    refine ⟨?_, ?_, .blank hall.2⟩
    · rintro rfl
      cases hall.1
    · rintro rfl
      cases hall.1
  cases h with
  | blank hall => exact .inr (hspace hall)
  | @outside letters depth hletters hends =>
      cases letters with
      | nil =>
          cases hends with
          | here => exact .inr (hspace hblank)
          | byte hopen hstep hrest =>
              by_cases hmark : byte = 0x22
              · subst hmark
                cases hstep
                exact .inl ⟨rfl, _, hrest⟩
              · exact .inr ⟨hmark, turned_of_step hstep hmark hrest⟩
      | cons letter others =>
          obtain ⟨hmark, hslash⟩ := hletters letter List.mem_cons_self
          obtain ⟨next, more, hstep, hrest⟩ :=
            (ends_cons_iff (isOpen_word letter others)).1 hends
          rw [step] at hstep
          split at hstep
          next heq =>
            cases hstep
            rw [heq]
            exact .inr ⟨hmark, hslash, .outside
              (fun other hother => hletters other (List.mem_cons_of_mem letter hother)) hrest⟩
          next => cases hstep

theorem not_turned_backslash (hblank : behind.all isSpace = true) :
    ¬ Turned behind (0x5c :: rest) := by
  intro h
  rcases h.cons hblank with ⟨heq, _⟩ | ⟨_, hne, _⟩
  · cases heq
  · exact hne rfl

theorem Turned.of_ne (hblank : behind.all isSpace = true) (h : Turned behind (byte :: rest))
    (hmark : byte ≠ 0x22) : Turned behind rest := by
  rcases h.cons hblank with ⟨heq, _⟩ | ⟨_, _, hrest⟩
  · exact absurd heq hmark
  · exact hrest

theorem Turned.inside (hblank : behind.all isSpace = true) (h : Turned behind (0x22 :: rest)) :
    Inside behind rest := by
  rcases h.cons hblank with ⟨_, hrest⟩ | ⟨hne, _⟩
  · exact hrest
  · exact absurd rfl hne

/-- What is taken for a text is there byte for byte. -/
theorem exists_of_turned_textBytes (hblank : behind.all isSpace = true) {whole read : List UInt8}
    (hle : input.length ≤ whole.length) {value : List UInt8} (h : Turned behind input)
    (hread : (textBytes whole read input hle).1 = .ok value) :
    ∃ taken, value = read.reverse ++ taken ∧
      input = taken ++ 0x22 :: (textBytes whole read input hle).2.1 ∧
      Inside behind (textBytes whole read input hle).2.1 := by
  fun_induction textBytes whole read input hle with
  | case1 => cases hread
  | case2 =>
      cases hread
      exact ⟨[], (List.append_nil _).symm, rfl, h.inside hblank⟩
  | case3 => cases hread
  | case4 => exact absurd h (not_turned_backslash hblank)
  | case5 => cases hread
  | case6 read byte rest _ _ hmark _ _ _ ih =>
      obtain ⟨taken, hvalue, hinput, hinside⟩ := ih (h.of_ne hblank hmark) hread
      refine ⟨byte :: taken, ?_, ?_, hinside⟩
      · rw [hvalue, List.reverse_cons, List.append_assoc]
        rfl
      · rw [List.cons_append, ← hinput]

theorem exists_of_turned_textBody (hblank : behind.all isSpace = true) {name : String}
    (h : Turned behind input) (hread : Gives textBody input (.ok name) rest) :
    input = Text.utf8 name ++ 0x22 :: rest ∧ Inside behind rest := by
  obtain ⟨bytes, middle, hbytes, hname⟩ := gives_bind_ok_iff.1 hread
  obtain ⟨taken, hvalue, hinput, hinside⟩ :=
    exists_of_turned_textBytes hblank (Rest.length_le_self input) h hbytes.1
  rw [show (textBytes input [] input (Rest.length_le_self input)).2.1 = middle from hbytes.2]
    at hinput hinside
  split at hname
  next value htext =>
    obtain ⟨hsame, rfl⟩ := gives_done_iff.1 hname
    cases hsame
    rw [Text.utf8_of_ofUtf8? htext, hvalue]
    exact ⟨hinput, hinside⟩
  next => exact absurd hname not_gives_fail

theorem inside_skipTextBytes (hblank : behind.all isSpace = true) {whole : List UInt8}
    (hle : input.length ≤ whole.length) (h : Turned behind input)
    (hread : (skipTextBytes whole input hle).1 = .ok ()) :
    Inside behind (skipTextBytes whole input hle).2.1 := by
  fun_induction skipTextBytes whole input hle with
  | case1 => cases hread
  | case2 => exact h.inside hblank
  | case3 => cases hread
  | case4 => exact absurd h (not_turned_backslash hblank)
  | case5 => cases hread
  | case6 byte rest _ _ hmark _ _ _ ih => exact ih (h.of_ne hblank hmark) hread

theorem inside_skipText (hblank : behind.all isSpace = true) (h : Turned behind input)
    (hread : Gives skipText input (.ok ()) rest) : Inside behind rest := by
  have hinside := inside_skipTextBytes hblank (Rest.length_le_self input) h hread.1
  rw [← hread.2]
  exact hinside

/-! ## Values read inside texts -/

theorem Inside.of_ne (h : Inside behind (byte :: rest)) (hmark : byte ≠ 0x22)
    (hslash : byte ≠ 0x5c) : Inside behind rest := by
  obtain ⟨depth, hends⟩ := h
  exact ⟨depth, (ends_inside_of_ne hmark hslash).1 hends⟩

theorem Inside.append {bytes : List UInt8} (h : Inside behind (bytes ++ rest))
    (hbytes : NoMark bytes) : Inside behind rest := by
  induction bytes with
  | nil => exact h
  | cons byte others ih =>
      obtain ⟨hmark, hslash⟩ := hbytes byte List.mem_cons_self
      exact ih (h.of_ne hmark hslash) fun other hother =>
        hbytes other (List.mem_cons_of_mem byte hother)

theorem Inside.begins (h : Inside behind input) (hbegins : Begins input byte rest) :
    Inside behind (byte :: rest) := by
  obtain ⟨depth, hends⟩ := h
  exact ⟨depth, (hbegins.ends_iff .inside).1 hends⟩

theorem Inside.turned (h : Inside behind (0x22 :: rest)) : Turned behind rest := by
  obtain ⟨depth, hends⟩ := h
  exact turned_of_ends (ends_inside_mark.1 hends)

theorem Inside.passes (h : Inside behind input) (hbegins : Begins input byte rest)
    (hbyte : byte ≠ 0x22 ∧ byte ≠ 0x5c) : Inside behind rest :=
  (h.begins hbegins).of_ne hbyte.1 hbyte.2

theorem Inside.skipAtom (hblank : behind.all isSpace = true) (h : Inside behind (byte :: input))
    (hread : Gives (skipAtom byte) input (.ok ()) rest) : Inside behind rest := by
  unfold Reader.skipAtom at hread
  split at hread
  next hword =>
    rw [wordAfter_eq, gives_literal_iff] at hread
    rw [hread] at h
    have hbyte : byte ≠ 0x22 ∧ byte ≠ 0x5c := by
      rcases hword with rfl | rfl | rfl
      · decide
      · decide
      · decide
    exact (h.of_ne hbyte.1 hbyte.2).append (noMark_wordLetters byte)
  split at hread
  next hmark =>
    rw [hmark] at h
    exact inside_skipText hblank h.turned hread
  split at hread
  next hnumber =>
    obtain ⟨number, middle, htext, hdone⟩ := gives_bind_ok_iff.1 hread
    obtain ⟨depth, hends⟩ := h
    rw [ends_number hnumber htext .inside] at hends
    rw [(gives_done_iff.1 hdone).2]
    exact ⟨depth, hends⟩
  next => exact absurd hread not_gives_fail

theorem Inside.memberValue {α : Type} {item : Reader α} {value : α} (h : Inside behind input)
    (hread : Gives (memberValue item) input (.ok value) rest) :
    ∃ middle, Inside behind middle ∧ Gives item middle (.ok value) rest := by
  obtain ⟨middle, hcolon, hitem⟩ := exists_of_gives_memberValue hread
  exact ⟨middle, h.passes hcolon (by decide), hitem⟩

theorem Turned.skipName (hblank : behind.all isSpace = true) (h : Turned behind input)
    (hread : Gives skipName input (.ok ()) rest) : Inside behind rest := by
  obtain ⟨_, middle, htext, hvalue⟩ := gives_bind_ok_iff.1 hread
  obtain ⟨last, hinside, hdone⟩ := (inside_skipText hblank h htext).memberValue hvalue
  rw [(gives_done_iff.1 hdone).2]
  exact hinside

/-- A value that is skipped inside a text ends inside a text. -/
theorem Inside.skipped (hblank : behind.all isSpace = true) {state : SkipState}
    {stack : List Bracket} (hskipped : Skipped state stack input rest) (h : Inside behind input) :
    Inside behind rest := by
  induction hskipped with
  | done => exact h
  | atom hbyte _ _ hatom _ ih => exact ih ((h.begins hbyte).skipAtom hblank hatom)
  | emptyList hbyte hclose _ ih => exact ih ((h.passes hbyte (by decide)).passes hclose (by decide))
  | list hbyte _ ih => exact ih (h.passes hbyte (by decide))
  | emptyObject hbyte hclose _ ih =>
      exact ih ((h.passes hbyte (by decide)).passes hclose (by decide))
  | object hbyte hmark hname _ ih =>
      exact ih (((h.passes hbyte (by decide)).begins hmark).turned.skipName hblank hname)
  | @close bracket _ _ _ _ hclose _ ih =>
      refine ih (h.passes hclose ?_)
      cases bracket with
      | list => decide
      | object => decide
  | item hcomma _ ih => exact ih (h.passes hcomma (by decide))
  | member hcomma hmark hname _ ih =>
      exact ih (((h.passes hcomma (by decide)).begins hmark).turned.skipName hblank hname)

theorem Inside.skipValue (hblank : behind.all isSpace = true) (h : Inside behind input)
    (hread : Gives skipValue input (.ok ()) rest) : Inside behind rest :=
  Inside.skipped hblank (skipped_skipValue hread) h

end FoodOrdering.Json
