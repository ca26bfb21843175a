import FoodOrdering.Json.Document
import FoodOrdering.Proofs.Json.Passing

/-!
# Readers that fail in the middle

A reader that fails may leave its input anywhere inside the value that it was reading.  It never
leaves the brackets that were open before it, and never stops within an escape or a word.
-/

namespace FoodOrdering.Json

open Reading Reader

variable {α β σ : Type} {behind input middle rest : List UInt8} {depth : Nat} {byte : UInt8}

/-- The input goes on inside or outside of quotation marks, between at least so many brackets. -/
def Strays (behind : List UInt8) (depth : Nat) (input : List UInt8) : Prop :=
  ∃ mode more, (mode = .inside ∨ mode = .outside) ∧ depth ≤ more ∧ Ends behind mode more input

theorem strays_of_inside (h : Ends behind .inside depth input) : Strays behind depth input :=
  ⟨.inside, depth, .inl rfl, Nat.le_refl depth, h⟩

theorem strays_of_outside (h : Ends behind .outside depth input) : Strays behind depth input :=
  ⟨.outside, depth, .inr rfl, Nat.le_refl depth, h⟩

/-- With this result the input goes on behind a value or, after a failure, astray. -/
inductive Lands (behind : List UInt8) (depth : Nat) : Except Fault α → List UInt8 → Prop
  | ok {value : α} {rest : List UInt8} :
      Ends behind .outside depth rest → Lands behind depth (.ok value) rest
  | error {fault : Fault} {rest : List UInt8} :
      Strays behind depth rest → Lands behind depth (.error fault) rest

/-- Whatever comes of the reading. -/
def Leads (behind : List UInt8) (depth : Nat) (reading : Reader α) (input : List UInt8) : Prop :=
  Lands behind depth (reading input).1 (reading input).2.1

theorem Lands.strays {result : Except Fault α} (h : Lands behind depth result rest) :
    Strays behind depth rest := by
  cases h with
  | ok hends => exact strays_of_outside hends
  | error hstrays => exact hstrays

theorem leads_iff {reading : Reader α} {result : Except Fault α}
    (h : Gives reading input result rest) :
    Leads behind depth reading input ↔ Lands behind depth result rest := by
  rw [Leads, h.1, h.2]

theorem leads_done (value : α) (h : Ends behind .outside depth input) :
    Leads behind depth (done value) input :=
  .ok h

theorem leads_fail (fault : Fault) (h : Strays behind depth input) :
    Leads behind depth (fail fault : Reader α) input :=
  .error h

section Bind

variable {first : Reader α} {second : α → Reader β}

/-- The first of two readings is known. -/
theorem leads_bind_iff {value : α} (h : Gives first input (.ok value) middle) :
    Leads behind depth (first >>= second) input ↔ Leads behind depth (second value) middle :=
  leads_iff (h.bind (gives_self (second value) middle))

theorem Leads.bind (h : Leads behind depth first input)
    (hnext : ∀ value rest, Gives first input (.ok value) rest → Ends behind .outside depth rest →
      Leads behind depth (second value) rest) :
    Leads behind depth (first >>= second) input := by
  have hfirst := gives_self first input
  unfold Leads at h
  cases hresult : (first input).1 with
  | error fault =>
      rw [hresult] at hfirst h
      exact (leads_iff hfirst.bind_error).2 (.error h.strays)
  | ok value =>
      rw [hresult] at hfirst h
      cases h with
      | ok hends => exact (leads_bind_iff hfirst).2 (hnext value _ hfirst hends)

end Bind

/-- An attempt is given up where its reading stops. -/
theorem strays_of_attempt {reading : Reader α} {found : Option α}
    (h : Leads behind depth reading input)
    (hread : Gives (attempt reading) input (.ok found) rest) : Strays behind depth rest := by
  rw [(hread.unique (gives_self reading input).attempt).2]
  exact h.strays

theorem not_ends_of_dropWhile_nil (hdepth : 0 < depth) (h : input.dropWhile isSpace = []) :
    ¬ Ends behind .outside depth input := by
  rw [← ends_dropWhile (.outside hdepth), h]
  exact not_ends_nil (isOpen_of_pos hdepth)

theorem dropWhile_of_token_none (h : token input = none) : input.dropWhile isSpace = [] := by
  unfold token at h
  split at h
  next hdrop => exact hdrop
  next => cases h

/-- Between open brackets the input goes on with some byte. -/
theorem exists_begins (hdepth : 0 < depth) (h : Ends behind .outside depth input) :
    ∃ byte rest, Begins input byte rest ∧ Ends behind .outside depth (byte :: rest) := by
  cases hdrop : input.dropWhile isSpace with
  | nil => exact absurd h (not_ends_of_dropWhile_nil hdepth hdrop)
  | cons byte rest => exact ⟨byte, rest, hdrop, (Begins.ends_iff hdrop (.outside hdepth)).1 h⟩

/-! ## Texts -/

/-- Wherever the reading stops. -/
def Stops (behind : List UInt8) (depth : Nat) (reading : Reader α) (input : List UInt8) : Prop :=
  Strays behind depth (reading input).2.1

theorem stops_bind_iff {first : Reader α} {second : α → Reader β} {value : α}
    (h : Gives first input (.ok value) middle) :
    Stops behind depth (first >>= second) input ↔ Stops behind depth (second value) middle := by
  unfold Stops
  rw [(h.bind (gives_self (second value) middle)).2]

theorem stops_fourHex_bind {second : Nat → Reader β}
    (h : Ends behind .escaped depth (0x75 :: input))
    (hnext : ∀ code rest, Ends behind .inside depth rest →
      Stops behind depth (second code) rest) :
    Stops behind depth (fourHex >>= second) input := by
  obtain ⟨a, b, c, d, rest, rfl⟩ := exists_of_ends_escaped h
  rw [ends_escaped_digits] at h
  have hcode : Gives fourHex (a :: b :: c :: d :: rest) (fourHex (a :: b :: c :: d :: rest)).1 rest :=
    ⟨rfl, rfl⟩
  cases hresult : (fourHex (a :: b :: c :: d :: rest)).1 with
  | error fault =>
      rw [hresult] at hcode
      unfold Stops
      rw [hcode.bind_error.2]
      exact strays_of_inside h
  | ok code =>
      rw [hresult] at hcode
      exact (stops_bind_iff hcode).2 (hnext code rest h)

theorem stops_escapedCode (h : Ends behind .escaped depth (0x75 :: input)) :
    Stops behind depth escapedCode input := by
  refine stops_fourHex_bind h fun code rest hinside => ?_
  split
  next => exact strays_of_inside hinside
  split
  next => exact strays_of_inside hinside
  -- A leading surrogate asks for a second escape, which may not be there.
  cases rest with
  | nil => exact absurd hinside (not_ends_nil isOpen_inside)
  | cons slash others =>
      rw [stops_bind_iff (gives_next slash others)]
      split
      next heq =>
        cases heq
        rw [ends_inside_backslash] at hinside
        cases others with
        | nil => exact absurd hinside (not_ends_nil isOpen_escaped)
        | cons mark others =>
            rw [stops_bind_iff (gives_next mark others)]
            split
            next heq =>
              cases heq
              refine stops_fourHex_bind hinside fun low rest hlow => ?_
              split
              next => exact strays_of_inside hlow
              next => exact strays_of_inside hlow
            next hmark =>
              rw [ends_escaped_of_ne fun heq => hmark (by rw [heq])] at hinside
              exact strays_of_inside hinside
      next hslash =>
        have hne : slash ≠ 0x5c := fun heq => hslash (by rw [heq])
        by_cases hmark : slash = 0x22
        · rw [hmark, ends_inside_mark] at hinside
          exact strays_of_outside hinside
        · rw [ends_inside_of_ne hmark hne] at hinside
          exact strays_of_inside hinside

theorem stops_escape (h : Ends behind .escaped depth input) :
    Stops behind depth escape input := by
  cases input with
  | nil => exact absurd h (not_ends_nil isOpen_escaped)
  | cons byte rest =>
      unfold escape
      rw [stops_bind_iff (gives_next byte rest)]
      dsimp only
      split
      next hsimple =>
        rw [ends_escaped_of_ne (ne_of_simpleEscape? hsimple)] at h
        exact strays_of_inside h
      split
      next heq =>
        rw [heq] at h
        exact stops_escapedCode h
      next hne =>
        rw [ends_escaped_of_ne hne] at h
        exact strays_of_inside h

theorem strays_textBytes (whole read : List UInt8) (hle : input.length ≤ whole.length)
    (h : Ends behind .inside depth input) :
    Strays behind depth (textBytes whole read input hle).2.1 := by
  fun_induction textBytes whole read input hle with
  | case1 => exact absurd h (not_ends_nil isOpen_inside)
  | case2 => exact strays_of_outside (ends_inside_mark.1 h)
  | case3 _ rest _ after hescape =>
      have hstrays := stops_escape (ends_inside_backslash.1 h)
      unfold Stops at hstrays
      rw [hescape] at hstrays
      exact hstrays
  | case4 _ rest _ after hescape _ _ _ _ _ ih =>
      exact ih ((ends_escape (gives_of_eq hescape)).1 (ends_inside_backslash.1 h))
  | case5 _ byte rest _ _ hmark hslash => exact strays_of_inside ((ends_inside_of_ne hmark hslash).1 h)
  | case6 _ byte rest _ _ hmark hslash _ _ ih => exact ih ((ends_inside_of_ne hmark hslash).1 h)

theorem leads_textBody (h : Ends behind .inside depth input) :
    Leads behind depth textBody input := by
  have hbytes : Leads behind depth
      (fun input => textBytes input [] input (Rest.length_le_self input)) input := by
    have hstrays := strays_textBytes input [] (Rest.length_le_self input) h
    unfold Leads
    cases hresult : (textBytes input [] input (Rest.length_le_self input)).1 with
    | error fault => exact .error hstrays
    | ok value =>
        exact .ok ((ends_textBytes input [] (Rest.length_le_self input) hresult).1 h)
  refine hbytes.bind fun bytes rest _ hends => ?_
  split
  next => exact leads_done _ hends
  next => exact leads_fail _ (strays_of_outside hends)

/-! ## Single values -/

theorem leads_numeral (h : Ends behind .outside depth (Reader.numberText byte input).2.1) :
    Leads behind depth (numeral byte) input := by
  have htext : Leads behind depth (Reader.numberText byte) input := by
    unfold Leads
    cases (Reader.numberText byte input).1 with
    | error fault => exact .error (strays_of_outside h)
    | ok number => exact .ok h
  refine htext.bind fun number rest _ hends => ?_
  unfold Reading.ofExcept
  split
  next => exact leads_done _ hends
  next => exact leads_fail _ (strays_of_outside hends)

/-- What begins with this byte and is followed by what closes all the brackets that are open before
it.  Of a bracket itself only the inside is known. -/
inductive Starts (behind : List UInt8) (depth : Nat) : UInt8 → List UInt8 → Prop
  | bracket {byte : UInt8} {rest : List UInt8} :
      byte = 0x5b ∨ byte = 0x7b → Ends behind .outside (depth + 1) rest →
        Starts behind depth byte rest
  | text {rest : List UInt8} : Ends behind .inside depth rest → Starts behind depth 0x22 rest
  | word {byte : UInt8} {rest : List UInt8} :
      startsWord byte = true → Ends behind .outside depth rest →
        Starts behind depth byte (wordLetters byte ++ rest)
  | number {byte : UInt8} {rest : List UInt8} :
      startsNumber byte = true → Ends behind .outside depth (Reader.numberText byte rest).2.1 →
        Starts behind depth byte rest
  | other {byte : UInt8} {rest : List UInt8} :
      byte ≠ 0x22 → ¬ (byte = 0x5b ∨ byte = 0x7b) → startsWord byte = false →
        startsNumber byte = false → Ends behind .outside depth (byte :: rest) →
          Starts behind depth byte rest

/-- Between open brackets any byte starts something. -/
theorem starts_of_ends (hdepth : 0 < depth) (h : Ends behind .outside depth (byte :: rest)) :
    Starts behind depth byte rest := by
  by_cases hmark : byte = 0x22
  · rw [hmark, ends_outside_mark hdepth] at h
    exact hmark ▸ .text h
  by_cases hbracket : byte = 0x5b ∨ byte = 0x7b
  · exact .bracket hbracket ((ends_opening hdepth hbracket).1 h)
  cases hword : startsWord byte with
  | true =>
      rw [ends_startsWord hdepth hword, ends_word hdepth] at h
      obtain ⟨last, rfl, hlast⟩ := h
      exact .word hword hlast
  | false =>
      cases hnumber : startsNumber byte with
      | true =>
          rw [ends_number hnumber (gives_self _ _) (.outside hdepth)] at h
          exact .number hnumber h
      | false => exact .other hmark hbracket hword hnumber h

/-- A value that can be skipped is followed by what is left behind it. -/
theorem exists_starts_of_skipValue (h : Gives skipValue input (.ok ()) behind) :
    ∃ byte rest, Begins input byte rest ∧ Starts behind 0 byte rest := by
  have hskipped := skipped_skipValue h
  cases hskipped with
  | @atom _ _ inner left _ byte hbyte hlist hobject hatom hrest =>
      cases hrest
      refine ⟨byte, inner, hbyte, ?_⟩
      unfold skipAtom at hatom
      split at hatom
      next hword =>
        rw [wordAfter_eq, gives_literal_iff] at hatom
        rw [hatom]
        exact .word (startsWord_iff.2 hword) .here
      split at hatom
      next hmark =>
        rw [hmark]
        exact .text ((ends_skipText hatom).2 .here)
      split at hatom
      next hnumber =>
        obtain ⟨number, middle, htext, hdone⟩ := gives_bind_ok_iff.1 hatom
        refine .number hnumber ?_
        rw [htext.2, ← (gives_done_iff.1 hdone).2]
        exact .here
      next => exact absurd hatom not_gives_fail
  | emptyList hbyte hclose hrest =>
      cases hrest
      exact ⟨0x5b, _, hbyte, .bracket (.inl rfl) ((hclose.ends_closing (.inl rfl)).2 .here)⟩
  | list hbyte hrest =>
      exact ⟨0x5b, _, hbyte, .bracket (.inl rfl)
        ((@Skipped.ends_iff _ _ _ 0 _ _ hrest fun _ => Nat.succ_pos _).2 .here)⟩
  | emptyObject hbyte hclose hrest =>
      cases hrest
      exact ⟨0x7b, _, hbyte, .bracket (.inr rfl) ((hclose.ends_closing (.inr rfl)).2 .here)⟩
  | object hbyte hmark hname hrest =>
      refine ⟨0x7b, _, hbyte, .bracket (.inr rfl) ?_⟩
      rw [hmark.ends_mark (Nat.succ_pos 0), ends_skipName (Nat.succ_pos 0) hname]
      exact (@Skipped.ends_iff _ _ _ 0 _ _ hrest fun _ => Nat.succ_pos _).2 .here

theorem gives_wordAfter (byte : UInt8) (rest : List UInt8) :
    Gives (wordAfter byte) (wordLetters byte ++ rest) (.ok ()) rest := by
  rw [wordAfter_eq, gives_literal_iff]

theorem not_startsNumber_of_startsWord (h : startsWord byte = true) :
    startsNumber byte = false := by
  rcases startsWord_iff.1 h with rfl | rfl | rfl
  · rfl
  · rfl
  · rfl

/-- A bracket that is refused stays where it is. -/
theorem leads_refuse (h : Starts behind depth byte rest)
    (hbracket : byte = 0x5b ∨ byte = 0x7b → Ends behind .outside depth (byte :: rest)) :
    Leads behind depth (refuse : Reader α) (byte :: rest) := by
  unfold refuse
  rw [leads_bind_iff (gives_peek byte rest)]
  dsimp only
  cases h with
  | bracket hopening hinner =>
      have hword : ¬ (byte = 0x6e ∨ byte = 0x74 ∨ byte = 0x66) := by
        rcases hopening with rfl | rfl
        · decide
        · decide
      have hnumber : ¬ startsNumber byte = true := by
        rcases hopening with rfl | rfl
        · decide
        · decide
      have hmark : ¬ byte = 0x22 := by
        rcases hopening with rfl | rfl
        · decide
        · decide
      rw [if_neg hword, if_neg hnumber, if_neg hmark, if_pos hopening]
      exact leads_fail _ (strays_of_outside (hbracket hopening))
  | text hinside =>
      rw [if_neg (by decide), if_neg (by decide), if_pos rfl, leads_bind_iff (gives_next _ _)]
      exact (leads_textBody hinside).bind fun _ last _ hends => leads_fail _ (strays_of_outside hends)
  | word hword hends =>
      rw [if_pos (startsWord_iff.1 hword), leads_bind_iff (gives_next _ _),
        leads_bind_iff (gives_wordAfter byte _)]
      exact leads_fail _ (strays_of_outside hends)
  | number hnumber hends =>
      have hword : ¬ (byte = 0x6e ∨ byte = 0x74 ∨ byte = 0x66) := by
        intro hword
        rw [not_startsNumber_of_startsWord (startsWord_iff.2 hword)] at hnumber
        cases hnumber
      rw [if_neg hword, if_pos hnumber, leads_bind_iff (gives_next _ _)]
      exact (leads_numeral hends).bind fun _ last _ hends => leads_fail _ (strays_of_outside hends)
  | other hmark hopening hword hnumber hends =>
      have hnone : ¬ (byte = 0x6e ∨ byte = 0x74 ∨ byte = 0x66) := by
        rw [← startsWord_iff, hword]
        exact Bool.false_ne_true
      rw [if_neg hnone, if_neg (Bool.eq_false_iff.1 hnumber), if_neg hmark, if_neg hopening]
      exact leads_fail _ (strays_of_outside hends)

/-! ## Lists and objects -/

/-- The reader of a closing bracket closes one bracket at most, and one if it succeeds. -/
structure Closes (close : Reader Unit) : Prop where
  stops : ∀ {behind input depth}, Strays behind (depth + 1) input → Stops behind depth close input
  ends : ∀ {behind input rest depth}, Gives close input (.ok ()) rest →
    (Ends behind .outside (depth + 1) input ↔ Ends behind .outside depth rest)

theorem Strays.dropWhile (h : Strays behind (depth + 1) input) :
    Strays behind (depth + 1) (input.dropWhile isSpace) := by
  obtain ⟨mode, more, hmode, hmore, hends⟩ := h
  refine ⟨mode, more, hmode, hmore, (ends_dropWhile ?_).2 hends⟩
  rcases hmode with rfl | rfl
  · exact .inside
  · exact .outside (Nat.lt_of_lt_of_le (Nat.succ_pos depth) hmore)

theorem Strays.weaken (h : Strays behind (depth + 1) input) : Strays behind depth input := by
  obtain ⟨mode, more, hmode, hmore, hends⟩ := h
  exact ⟨mode, more, hmode, Nat.le_of_succ_le hmore, hends⟩

/-- A closing bracket closes one bracket, unless it stands in a text. -/
theorem Strays.closing (h : Strays behind (depth + 1) (byte :: rest))
    (hbyte : byte = 0x5d ∨ byte = 0x7d) : Strays behind depth rest := by
  obtain ⟨mode, more, rfl | rfl, hmore, hends⟩ := h
  · refine ⟨.inside, more, .inl rfl, Nat.le_of_succ_le hmore, (ends_inside_of_ne ?_ ?_).1 hends⟩
    · rcases hbyte with rfl | rfl
      · decide
      · decide
    · rcases hbyte with rfl | rfl
      · decide
      · decide
  · cases more with
    | zero => cases hmore
    | succ more =>
        exact ⟨.outside, more, .inr rfl, Nat.le_of_succ_le_succ hmore, (ends_closing hbyte).1 hends⟩

theorem Strays.comma (h : Strays behind (depth + 1) (0x2c :: rest)) : Strays behind depth rest := by
  obtain ⟨mode, more, hmode, hmore, hends⟩ := h
  refine ⟨mode, more, hmode, Nat.le_of_succ_le hmore, ?_⟩
  refine (ends_filler rfl ?_).1 hends
  rcases hmode with rfl | rfl
  · exact .inside
  · exact .outside (Nat.lt_of_lt_of_le (Nat.succ_pos depth) hmore)

theorem closes_endList : Closes endList where
  stops {behind input depth} h := by
    have hdrop := h.dropWhile
    unfold endList
    rw [stops_bind_iff (gives_peekToken_dropWhile input)]
    generalize input.dropWhile isSpace = left at hdrop
    cases left with
    | nil => exact hdrop.weaken
    | cons byte rest =>
        dsimp only [List.head?_cons]
        split
        next heq =>
          cases heq
          exact hdrop.closing (.inl rfl)
        next heq =>
          cases heq
          exact hdrop.comma
        next => exact hdrop.weaken
  ends {behind input rest depth} h := by
    obtain ⟨byte, left, hbegins, hbyte⟩ := exists_of_gives_peekToken_bind not_gives_fail h
    split at hbyte
    next heq =>
      cases heq
      rw [(gives_next _ _).bind_iff] at hbyte
      rw [(gives_done_iff.1 hbyte).2]
      exact hbegins.ends_closing (.inl rfl)
    next heq =>
      cases heq
      rw [(gives_next _ _).bind_iff] at hbyte
      exact absurd hbyte not_gives_fail
    next => exact absurd hbyte not_gives_fail

theorem exists_of_gives_endObject (h : Gives endObject input (.ok ()) rest) :
    Begins input 0x7d rest := by
  obtain ⟨byte, left, hbegins, hbyte⟩ := exists_of_gives_peekToken_bind not_gives_fail h
  split at hbyte
  next heq =>
    cases heq
    rw [(gives_next _ _).bind_iff] at hbyte
    rw [(gives_done_iff.1 hbyte).2]
    exact hbegins
  next => exact absurd hbyte not_gives_fail

theorem closes_endObject : Closes endObject where
  stops {behind input depth} h := by
    have hdrop := h.dropWhile
    unfold endObject
    rw [stops_bind_iff (gives_peekToken_dropWhile input)]
    generalize input.dropWhile isSpace = left at hdrop
    cases left with
    | nil => exact hdrop.weaken
    | cons byte rest =>
        dsimp only [List.head?_cons]
        split
        next heq =>
          cases heq
          exact hdrop.closing (.inr rfl)
        next => exact hdrop.weaken
  ends h := (exists_of_gives_endObject h).ends_closing (.inr rfl)

theorem leads_closedBy {body : Reader α} {close : Reader Unit} (hclose : Closes close)
    (h : Leads behind (depth + 1) body input) : Leads behind depth (closedBy body close) input := by
  have hbody := gives_self body input
  have hstops := hclose.stops h.strays
  unfold Leads at h ⊢
  cases hresult : (closedBy body close input).1 with
  | error fault => exact .error hstops
  | ok value =>
      have hboth := gives_self (closedBy body close) input
      rw [hresult] at hboth
      obtain ⟨middle, hvalue, hend⟩ := gives_closedBy_ok_iff.1 hboth
      rw [hvalue.1, hvalue.2] at h
      cases h with
      | ok hends => exact .ok ((hclose.ends hend).1 hends)

/-- A closing bracket behind nothing. -/
theorem leads_closedBy_fail {close : Reader Unit} (hclose : Closes close)
    (h : Ends behind .outside (depth + 1) input) :
    Leads behind depth (closedBy (fail .mismatch : Reader α) close) input :=
  leads_closedBy hclose (leads_fail _ (strays_of_outside h))

theorem leads_moreItems {item : Reader α} (hdepth : 0 < depth)
    (hitem : ∀ {input}, Ends behind .outside depth input → Leads behind depth item input)
    (whole : List UInt8) (read : List α) (hle : input.length ≤ whole.length)
    (h : Ends behind .outside depth input) :
    Lands behind depth (moreItems item whole read input hle).1
      (moreItems item whole read input hle).2.1 := by
  have hcalm : Calm .outside depth := .outside hdepth
  fun_induction moreItems item whole read input hle with
  | case1 _ _ _ hnone =>
      exact absurd h (not_ends_of_dropWhile_nil hdepth (dropWhile_of_token_none hnone))
  | case2 => exact .ok h
  | case3 _ _ _ _ _ hnone hcomma =>
      have hrest := ((begins_of_token hcomma).ends_filler rfl hcalm).1 h
      exact absurd hrest (not_ends_of_dropWhile_nil hdepth (dropWhile_of_token_none hnone))
  | case4 _ _ _ _ _ _ hcomma =>
      exact .error (strays_of_outside (((begins_of_token hcomma).ends_filler rfl hcalm).1 h))
  | case5 _ _ _ rest _ _ _ _ _ _ _ hread hcomma =>
      have hleads := (leads_iff (gives_of_eq hread)).1 <|
        hitem (((begins_of_token hcomma).ends_filler rfl hcalm).1 h)
      exact .error hleads.strays
  | case6 _ _ _ rest _ _ _ _ _ _ _ hread _ hcomma _ ih =>
      have hleads := (leads_iff (gives_of_eq hread)).1 <|
        hitem (((begins_of_token hcomma).ends_filler rfl hcalm).1 h)
      cases hleads with
      | ok hends => exact ih hends
  | case7 => exact .error (strays_of_outside h)

theorem leads_items {item : Reader α} (hdepth : 0 < depth)
    (hitem : ∀ {input}, Ends behind .outside depth input → Leads behind depth item input)
    (h : Ends behind .outside depth input) : Leads behind depth (items item) input := by
  obtain ⟨byte, rest, hbegins, hends⟩ := exists_begins hdepth h
  unfold items
  rw [leads_bind_iff hbegins.gives_peekToken]
  split
  next heq => cases heq
  next => exact leads_done _ hends
  next =>
    exact (hitem hends).bind fun first left _ hleft =>
      leads_moreItems hdepth hitem left [first] (Rest.length_le_self left) hleft

theorem leads_memberAfterMark {member : String → σ → Reader σ} {read : σ}
    (hmember : ∀ name read input, Ends behind .outside depth input →
      Leads behind depth (member name read) input)
    (h : Ends behind .inside depth input) :
    Leads behind depth (memberAfterMark member read) input :=
  (leads_textBody h).bind fun name rest _ hends => hmember name read rest hends

theorem leads_moreMembers {member : String → σ → Reader σ} (hdepth : 0 < depth)
    (hmember : ∀ name read input, Ends behind .outside depth input →
      Leads behind depth (member name read) input)
    (whole : List UInt8) (read : σ) (hle : input.length ≤ whole.length)
    (h : Ends behind .outside depth input) :
    Lands behind depth (moreMembers member whole read input hle).1
      (moreMembers member whole read input hle).2.1 := by
  have hcalm : Calm .outside depth := .outside hdepth
  fun_induction moreMembers member whole read input hle with
  | case1 _ _ _ hnone =>
      exact absurd h (not_ends_of_dropWhile_nil hdepth (dropWhile_of_token_none hnone))
  | case2 => exact .ok h
  | case3 _ _ _ _ _ hnone hcomma =>
      have hrest := ((begins_of_token hcomma).ends_filler rfl hcalm).1 h
      exact absurd hrest (not_ends_of_dropWhile_nil hdepth (dropWhile_of_token_none hnone))
  | case4 _ _ _ _ _ _ _ _ _ hread hcomma _ hmark =>
      have hrest := ((begins_of_token hcomma).ends_filler rfl hcalm).1 h
      have hleads := (leads_iff (gives_of_eq hread)).1 <|
        leads_memberAfterMark hmember (((begins_of_token hmark).ends_mark hdepth).1 hrest)
      exact .error hleads.strays
  | case5 _ _ _ _ _ _ _ _ _ hread _ hcomma _ hmark ih =>
      have hrest := ((begins_of_token hcomma).ends_filler rfl hcalm).1 h
      have hleads := (leads_iff (gives_of_eq hread)).1 <|
        leads_memberAfterMark hmember (((begins_of_token hmark).ends_mark hdepth).1 hrest)
      cases hleads with
      | ok hends => exact ih hends
  | case6 _ _ _ _ _ _ _ _ _ _ hcomma =>
      exact .error (strays_of_outside (((begins_of_token hcomma).ends_filler rfl hcalm).1 h))
  | case7 => exact .error (strays_of_outside h)

theorem leads_members {member : String → σ → Reader σ} {read : σ} (hdepth : 0 < depth)
    (hmember : ∀ name read input, Ends behind .outside depth input →
      Leads behind depth (member name read) input)
    (h : Ends behind .outside depth input) : Leads behind depth (members member read) input := by
  obtain ⟨byte, rest, hbegins, hends⟩ := exists_begins hdepth h
  unfold members
  rw [leads_bind_iff hbegins.gives_peekToken]
  split
  next => exact leads_done _ hends
  next heq =>
    cases heq
    rw [leads_bind_iff (gives_next _ _)]
    refine (leads_memberAfterMark hmember ((ends_outside_mark hdepth).1 hends)).bind ?_
    exact fun next left _ hleft =>
      leads_moreMembers hdepth hmember left next (Rest.length_le_self left) hleft
  next => exact leads_fail _ (strays_of_outside hends)

theorem leads_memberValue {item : Reader α} (hdepth : 0 < depth)
    (hitem : ∀ {input}, Ends behind .outside depth input → Leads behind depth item input)
    (h : Ends behind .outside depth input) : Leads behind depth (memberValue item) input := by
  obtain ⟨byte, rest, hbegins, hends⟩ := exists_begins hdepth h
  unfold memberValue
  rw [leads_bind_iff hbegins.gives_peekToken]
  split
  next heq =>
    cases heq
    rw [leads_bind_iff (gives_next _ _)]
    exact hitem ((ends_of_step (isOpen_of_pos hdepth) (step_filler rfl)).1 hends)
  next => exact leads_fail _ (strays_of_outside hends)

/-! ## Values of any shape -/

/-- A reader of any value, at a place where some byte starts one. -/
theorem leads_value_of_starts (levels : Nat)
    (hinner : ∀ inner, levels = inner + 1 → ∀ {input}, Ends behind .outside (depth + 1) input →
      Leads behind (depth + 1) (value inner) input)
    (hbegins : Begins input byte rest) (h : Starts behind depth byte rest)
    (hfloor : levels = 0 → Ends behind .outside depth (byte :: rest)) :
    Leads behind depth (value levels) input := by
  unfold value
  rw [leads_bind_iff hbegins.gives_peekToken]
  dsimp only
  cases h with
  | bracket hopening hends =>
      have hfirst : ¬ byte = 0x6e ∧ ¬ (byte = 0x74 ∨ byte = 0x66) ∧ ¬ startsNumber byte = true ∧
          ¬ byte = 0x22 := by
        rcases hopening with rfl | rfl
        · decide
        · decide
      rw [if_neg hfirst.1, if_neg hfirst.2.1, if_neg hfirst.2.2.1, if_neg hfirst.2.2.2,
        if_pos hopening]
      cases levels with
      | zero => exact leads_fail _ (strays_of_outside (hfloor rfl))
      | succ inner =>
          have hvalue : ∀ {input}, Ends behind .outside (depth + 1) input →
              Leads behind (depth + 1) (value inner) input := fun h => hinner inner rfl h
          rw [leads_bind_iff (gives_next _ _)]
          split
          next =>
            refine (leads_closedBy closes_endList ?_).bind fun _ _ _ hends => leads_done _ hends
            exact leads_items (Nat.succ_pos depth) hvalue hends
          next =>
            refine (leads_closedBy closes_endObject ?_).bind fun _ _ _ hends => leads_done _ hends
            refine leads_members (Nat.succ_pos depth) (fun name read input hinput => ?_) hends
            refine (leads_memberValue (Nat.succ_pos depth) hvalue hinput).bind ?_
            exact fun _ _ _ hends => leads_done _ hends
  | text hinside =>
      rw [if_neg (by decide), if_neg (by decide), if_neg (by decide), if_pos rfl,
        leads_bind_iff (gives_next _ _)]
      exact (leads_textBody hinside).bind fun _ _ _ hends => leads_done _ hends
  | word hword hends =>
      have hone := startsWord_iff.1 hword
      split
      next =>
        rw [leads_bind_iff (gives_next _ _), leads_bind_iff (gives_wordAfter byte _)]
        exact leads_done _ hends
      next hnull =>
        rw [if_pos (hone.resolve_left hnull), leads_bind_iff (gives_next _ _),
          leads_bind_iff (gives_wordAfter byte _)]
        exact leads_done _ hends
  | number hnumber hends =>
      have hne := @ne_of_startsNumber byte
      rw [if_neg (hne hnumber rfl), if_neg (not_or.2 ⟨hne hnumber rfl, hne hnumber rfl⟩),
        if_pos hnumber, leads_bind_iff (gives_next _ _)]
      refine (leads_numeral hends).bind fun number last _ hends => ?_
      split
      next => exact leads_done _ hends
      next => exact leads_done _ hends
  | other hmark hopening hword hnumber hends =>
      have hnone := Bool.eq_false_iff.1 hword
      rw [ne_eq, startsWord_iff, not_or] at hnone
      rw [if_neg hnone.1, if_neg hnone.2, if_neg (Bool.eq_false_iff.1 hnumber), if_neg hmark,
        if_neg hopening]
      exact leads_fail _ (strays_of_outside hends)

theorem leads_value (levels : Nat) (hdepth : 0 < depth) (h : Ends behind .outside depth input) :
    Leads behind depth (value levels) input := by
  induction levels generalizing depth input with
  | zero =>
      obtain ⟨byte, rest, hbegins, hends⟩ := exists_begins hdepth h
      exact leads_value_of_starts 0 (fun _ hlevels => nomatch hlevels) hbegins
        (starts_of_ends hdepth hends) fun _ => hends
  | succ inner ih =>
      obtain ⟨byte, rest, hbegins, hends⟩ := exists_begins hdepth h
      refine leads_value_of_starts (inner + 1) (fun other hlevels _ hinput => ?_) hbegins
        (starts_of_ends hdepth hends) fun _ => hends
      cases hlevels
      exact ih (Nat.succ_pos depth) hinput

theorem leads_optional {item : Reader α} (hbegins : Begins input byte rest)
    (h : Starts behind depth byte rest) (hitem : Leads behind depth item (byte :: rest)) :
    Leads behind depth (Reader.optional item) input := by
  unfold Reader.optional
  rw [leads_bind_iff hbegins.gives_peekToken]
  split
  next heq =>
    cases heq
    rw [leads_bind_iff (gives_next _ _)]
    cases h with
    | bracket hopening => cases hopening with
      | inl heq => cases heq
      | inr heq => cases heq
    | word _ hends =>
        rw [leads_bind_iff (gives_wordAfter 0x6e _)]
        exact leads_done _ hends
    | number hstarts => cases hstarts
    | other _ _ hword => cases hword
  next => exact hitem.bind fun _ _ _ hends => leads_done _ hends

theorem leads_text (hdepth : 0 < depth) (h : Ends behind .outside depth input) :
    Leads behind depth Reader.text input := by
  obtain ⟨byte, inner, hbegins, hends⟩ := exists_begins hdepth h
  unfold Reader.text
  rw [leads_bind_iff hbegins.gives_peekToken]
  dsimp only
  split
  next heq =>
    rw [leads_bind_iff (gives_next _ _)]
    rw [heq, ends_outside_mark hdepth] at hends
    exact leads_textBody hends
  next => exact leads_refuse (starts_of_ends hdepth hends) fun _ => hends

end FoodOrdering.Json
