import FoodOrdering.Proofs.Json.Numeral
import FoodOrdering.Proofs.Json.Passing

/-!
# Written values passed over

What is written for a value is a value of JSON: a reader that skips one value passes over the whole
text and nothing behind it.
-/

namespace FoodOrdering.Json

open Text Reading Reader

variable {input inner rest last : List UInt8} {stack : List Bracket}

/-! ## A skipping reader takes every step that is open to it -/

theorem exists_token_of_begins {byte : UInt8} (h : Begins input byte inner) :
    ∃ hlt, token input = some (byte, ⟨inner, hlt⟩) := by
  cases htoken : token input with
  | none =>
      unfold token at htoken
      split at htoken
      next hnil => cases hnil.symm.trans h
      next => cases htoken
  | some found =>
      obtain ⟨other, after⟩ := found
      obtain ⟨rfl, rfl⟩ := (begins_of_token htoken).unique h
      exact ⟨after.2, rfl⟩

/-- No value begins with the bracket that closes a list. -/
theorem Skipped.exists_begins (h : Skipped .before stack input rest) :
    ∃ byte after, Begins input byte after ∧ byte ≠ 0x5d := by
  cases h with
  | @atom _ _ inner left _ byte hbyte _ _ hatom _ =>
      refine ⟨byte, inner, hbyte, ?_⟩
      rintro rfl
      exact absurd hatom not_gives_fail
  | emptyList hbyte | list hbyte | emptyObject hbyte | object hbyte =>
      exact ⟨_, _, hbyte, by decide⟩

theorem Skipped.gives_skipFrom {whole : List UInt8} {state : SkipState}
    (h : Skipped state stack input rest) (hle : input.length ≤ whole.length) :
    (skipFrom whole state stack input hle).1 = .ok () ∧
      (skipFrom whole state stack input hle).2.1 = rest := by
  induction h with
  | done =>
      rw [skipFrom]
      exact ⟨rfl, rfl⟩
  | atom hbyte hlist hobject hatom _ ih =>
      obtain ⟨hrest, htoken⟩ := exists_token_of_begins hbyte
      obtain ⟨hleft, hread⟩ := hatom.exists_eq
      rw [skipFrom, htoken]
      dsimp only
      rw [if_neg hlist, if_neg hobject, hread]
      exact ih _
  | emptyList hbyte hclose _ ih =>
      obtain ⟨hrest, htoken⟩ := exists_token_of_begins hbyte
      obtain ⟨hafter, hinner⟩ := exists_token_of_begins hclose
      rw [skipFrom, htoken]
      dsimp only
      rw [if_pos rfl, hinner]
      dsimp only
      rw [if_pos rfl]
      exact ih _
  | list hbyte hitem ih =>
      obtain ⟨hrest, htoken⟩ := exists_token_of_begins hbyte
      obtain ⟨first, others, hfirst, hne⟩ := hitem.exists_begins
      obtain ⟨hafter, hinner⟩ := exists_token_of_begins hfirst
      rw [skipFrom, htoken]
      dsimp only
      rw [if_pos rfl, hinner]
      dsimp only
      rw [if_neg hne]
      exact ih _
  | emptyObject hbyte hclose _ ih =>
      obtain ⟨hrest, htoken⟩ := exists_token_of_begins hbyte
      obtain ⟨hafter, hinner⟩ := exists_token_of_begins hclose
      rw [skipFrom, htoken]
      dsimp only
      rw [if_neg (by decide), if_pos rfl, hinner]
      dsimp only
      rw [if_pos rfl]
      exact ih _
  | object hbyte hmark hname _ ih =>
      obtain ⟨hrest, htoken⟩ := exists_token_of_begins hbyte
      obtain ⟨hafter, hinner⟩ := exists_token_of_begins hmark
      obtain ⟨hleft, hread⟩ := hname.exists_eq
      rw [skipFrom, htoken]
      dsimp only
      rw [if_neg (by decide), if_pos rfl, hinner]
      dsimp only
      rw [if_neg (by decide), if_pos rfl, hread]
      exact ih _
  | close hclose _ ih =>
      obtain ⟨hrest, htoken⟩ := exists_token_of_begins hclose
      rw [skipFrom, htoken]
      dsimp only
      rw [if_pos rfl]
      exact ih _
  | item hcomma _ ih =>
      obtain ⟨hrest, htoken⟩ := exists_token_of_begins hcomma
      rw [skipFrom, htoken]
      dsimp only
      rw [if_neg (by decide), if_pos rfl]
      exact ih _
  | member hcomma hmark hname _ ih =>
      obtain ⟨hrest, htoken⟩ := exists_token_of_begins hcomma
      obtain ⟨hafter, hinner⟩ := exists_token_of_begins hmark
      obtain ⟨hleft, hread⟩ := hname.exists_eq
      rw [skipFrom, htoken]
      dsimp only
      rw [if_neg (by decide), if_pos rfl, hinner]
      dsimp only
      rw [if_pos rfl, hread]
      exact ih _

/-! ## Texts of one value -/

/-- A text that is passed over as one value, wherever a value is skipped. -/
structure IsValueText (text : List UInt8) : Prop where
  skipped : ∀ {stack rest last}, Delimited rest → Skipped .behind stack rest last →
    Skipped .before stack (text ++ rest) last

theorem isValueText_of_atom {first : UInt8} {others : List UInt8} (hspace : isSpace first = false)
    (hlist : first ≠ 0x5b) (hobject : first ≠ 0x7b)
    (h : ∀ rest, Delimited rest → Gives (skipAtom first) (others ++ rest) (.ok ()) rest) :
    IsValueText (first :: others) := by
  constructor
  intro stack rest last hrest hbehind
  exact .atom (Begins.self hspace) hlist hobject (h rest hrest) hbehind

theorem isValueText_word (first : UInt8) (h : startsWord first = true) :
    IsValueText (first :: wordLetters first) := by
  have hbytes : isSpace first = false ∧ first ≠ 0x5b ∧ first ≠ 0x7b := by
    rcases startsWord_iff.1 h with rfl | rfl | rfl
    · decide
    · decide
    · decide
  obtain ⟨hspace, hlist, hobject⟩ := hbytes
  refine isValueText_of_atom hspace hlist hobject fun rest _ => ?_
  unfold skipAtom
  rw [if_pos (startsWord_iff.1 h), wordAfter_eq]
  exact gives_literal_iff.2 rfl

theorem isValueText_number {text : List Char} (h : IsNumberText text) :
    IsValueText (charBytes text) := by
  obtain ⟨first, others, hbytes, hstarts, hpasses⟩ := exists_passes_numberText h
  have hne := @ne_of_startsNumber first
  rw [hbytes]
  refine isValueText_of_atom (isSpace_of_startsNumber hstarts) (hne hstarts rfl) (hne hstarts rfl)
    fun rest hrest => ?_
  obtain ⟨number, hnumber⟩ := hpasses rest hrest
  unfold skipAtom
  rw [if_neg, if_neg (hne hstarts rfl), if_pos hstarts]
  · exact hnumber.bind (gives_done () rest)
  · rintro (heq | heq | heq)
    · exact hne hstarts rfl heq
    · exact hne hstarts rfl heq
    · exact hne hstarts rfl heq

theorem isValueText_text (value : String) : IsValueText (charBytes (Json.text value).chars) := by
  have hbytes : charBytes (Json.text value).chars =
      0x22 :: (charBytes (value.toList.flatMap escapeChar) ++ [0x22]) := by
    rw [chars, quoteChars, charBytes_cons, charBytes_append]
    rfl
  rw [hbytes]
  refine isValueText_of_atom (by decide) (by decide) (by decide) fun rest _ => ?_
  rw [List.append_assoc]
  exact gives_skipText value rest

/-! ## Lists and objects -/

theorem skipped_items {items : List Json} (hitems : items ≠ [])
    (h : ∀ item ∈ items, IsValueText (charBytes item.chars))
    (hbehind : Skipped .behind stack rest last) :
    Skipped .before (.list :: stack) (charBytes (itemChars items) ++ 0x5d :: rest) last := by
  induction items with
  | nil => exact absurd rfl hitems
  | cons item others ih =>
      have hitem := h item List.mem_cons_self
      cases others with
      | nil =>
          exact hitem.skipped ⟨0x5d, rest, rfl, .inr (.inl rfl)⟩ (.close (Begins.self rfl) hbehind)
      | cons next others =>
          have hmore := ih (List.cons_ne_nil next others)
            fun other hother => h other (List.mem_cons_of_mem item hother)
          rw [itemChars, charBytes_append, List.append_assoc]
          · exact hitem.skipped ⟨0x2c, _, rfl, .inl rfl⟩ (.item (Begins.self rfl) hmore)
          · exact List.cons_ne_nil next others

theorem isValueText_list {items : List Json}
    (h : ∀ item ∈ items, IsValueText (charBytes item.chars)) :
    IsValueText (charBytes (Json.list items).chars) := by
  constructor
  intro stack rest last _ hbehind
  rw [chars, charBytes_cons, charBytes_append, List.append_assoc, List.append_assoc]
  cases items with
  | nil => exact .emptyList (Begins.self rfl) (Begins.self rfl) hbehind
  | cons item others =>
      exact .list (Begins.self rfl) (skipped_items (List.cons_ne_nil item others) h hbehind)

theorem gives_skipName (name : String) (rest : List UInt8) :
    Gives skipName (charBytes (name.toList.flatMap escapeChar) ++ 0x22 :: 0x3a :: rest) (.ok ())
      rest := by
  have hcolon : Gives (memberValue (done ())) (0x3a :: rest) (.ok ()) rest :=
    (gives_peekToken _ (by decide)).bind ((gives_next _ _).bind (gives_done () rest))
  exact (gives_skipText name (0x3a :: rest)).bind hcolon

/-- Behind the first member of an object, the others are skipped up to the closing bracket. -/
theorem skipped_furtherBytes {others : List (String × Json)}
    (h : ∀ other ∈ others, IsValueText (charBytes other.2.chars))
    (hbehind : Skipped .behind stack rest last) :
    Skipped .behind (.object :: stack) (furtherBytes others ++ 0x7d :: rest) last := by
  induction others with
  | nil => exact .close (Begins.self rfl) hbehind
  | cons one others ih =>
      have hmore := ih fun other hother => h other (List.mem_cons_of_mem one hother)
      have hone := h one List.mem_cons_self
      rw [furtherBytes_cons]
      exact .member (Begins.self rfl) (Begins.self rfl) (gives_skipName one.1 _)
        (hone.skipped (delimited_furtherBytes others rest) hmore)

theorem isValueText_object {members : List (String × Json)}
    (h : ∀ one ∈ members, IsValueText (charBytes one.2.chars)) :
    IsValueText (charBytes (Json.object members).chars) := by
  constructor
  intro stack rest last _ hbehind
  rw [chars, charBytes_cons, charBytes_append, List.append_assoc, List.append_assoc]
  cases members with
  | nil => exact .emptyObject (Begins.self rfl) (Begins.self rfl) hbehind
  | cons one others =>
      have hone := h one List.mem_cons_self
      have hmore := skipped_furtherBytes
        (fun other hother => h other (List.mem_cons_of_mem one hother)) hbehind
      rw [memberChars_cons, charBytes_append, List.append_assoc, charBytes_memberText]
      exact .object (Begins.self rfl) (Begins.self rfl) (gives_skipName one.1 _)
        (hone.skipped (delimited_furtherBytes others rest) hmore)

/-! ## All values -/

theorem sizeOf_value_lt {one : String × Json} {members : List (String × Json)}
    (h : one ∈ members) : sizeOf one.2 < sizeOf members := by
  have hmember := List.sizeOf_lt_of_mem h
  rw [Prod.mk.sizeOf_spec] at hmember
  omega

theorem isValueText_chars : ∀ value : Json, IsValueText (charBytes value.chars)
  | .null => isValueText_word 0x6e rfl
  | .bool true => isValueText_word 0x74 rfl
  | .bool false => isValueText_word 0x66 rfl
  | .integer value => isValueText_number (isNumberText_writeInt value)
  | .real value => by
      rcases isNumberText_realChars value with hnull | hnumber
      · rw [chars, hnull]
        exact isValueText_word 0x6e rfl
      · exact isValueText_number hnumber
  | .text value => isValueText_text value
  | .list items => isValueText_list fun item _ => isValueText_chars item
  | .object members => isValueText_object fun one hone =>
      have := sizeOf_value_lt hone
      isValueText_chars one.2
termination_by value => sizeOf value

/-- Every written value is passed over by a reader that skips one value. -/
theorem reads_skipValue (value : Json) : Reads skipValue value () := by
  intro rest hrest
  have hskipped := (isValueText_chars value).skipped hrest (.done rest)
  exact hskipped.gives_skipFrom (Rest.length_le_self _)

end FoodOrdering.Json
