import FoodOrdering.Proofs.Json.Text

/-!
# Objects read back

The members of a written object are read one after the other, each of them added to what was read
before it, and a record that is written as an object is read from its members.
-/

namespace FoodOrdering.Json

open Text Reading

variable {α σ : Type}

/-- The text of one member. -/
def memberText (one : String × Json) : List Char :=
  quoteChars one.1.toList ++ ':' :: one.2.chars

theorem memberChars_cons (one : String × Json) (others : List (String × Json)) :
    memberChars (one :: others) =
      memberText one ++ others.flatMap fun other => ',' :: memberText other := by
  induction others generalizing one with
  | nil => simp [memberChars, memberText]
  | cons next others ih =>
      rw [memberChars, ih next, List.flatMap_cons]
      · simp only [memberText, List.append_assoc, List.cons_append]
      · exact List.cons_ne_nil next others

namespace Reader

/-- A member with this name and value leads from one state of a reading to the next. -/
def Takes (member : String → σ → Reader σ) (one : String × Json) (before after : σ) : Prop :=
  ∀ rest, Delimited rest →
    Gives (member one.1 before) (0x3a :: (charBytes one.2.chars ++ rest)) (.ok after) rest

/-- The members of an object lead from one state of a reading to another. -/
inductive TakesAll (member : String → σ → Reader σ) : σ → List (String × Json) → σ → Prop
  | nil (read : σ) : TakesAll member read [] read
  | cons {one : String × Json} {others : List (String × Json)} {before middle after : σ} :
      Takes member one before middle → TakesAll member middle others after →
        TakesAll member before (one :: others) after

theorem gives_memberValue {item : Reader α} {value : Json} {found : α}
    (h : Reads item value found) {rest : List UInt8} (hrest : Delimited rest) :
    Gives (memberValue item) (0x3a :: (charBytes value.chars ++ rest)) (.ok found) rest := by
  unfold memberValue
  exact (gives_peekToken _ (by decide)).bind ((gives_next _ _).bind (h rest hrest))

/-- A member that was not met yet. -/
theorem gives_once {item : Reader α} {value : Json} {found : α} (h : Reads item value found)
    {rest : List UInt8} (hrest : Delimited rest) :
    Gives (once none item) (0x3a :: (charBytes value.chars ++ rest)) (.ok (some found)) rest :=
  (gives_memberValue h hrest).map some

theorem gives_memberAfterMark {member : String → σ → Reader σ} {one : String × Json}
    {before after : σ} (h : Takes member one before after) {rest : List UInt8}
    (hrest : Delimited rest) :
    Gives (memberAfterMark member before)
      (charBytes (one.1.toList.flatMap escapeChar) ++
        0x22 :: 0x3a :: (charBytes one.2.chars ++ rest))
      (.ok after) rest :=
  (gives_textBody one.1 _).bind (h rest hrest)

theorem charBytes_memberText (one : String × Json) (rest : List UInt8) :
    charBytes (memberText one) ++ rest =
      0x22 :: (charBytes (one.1.toList.flatMap escapeChar) ++
        0x22 :: 0x3a :: (charBytes one.2.chars ++ rest)) := by
  rw [memberText, charBytes_append, List.append_assoc, charBytes_quoteChars]
  rfl

/-- The members behind the first one, with a comma before each of them. -/
def furtherBytes (others : List (String × Json)) : List UInt8 :=
  charBytes (others.flatMap fun other => ',' :: memberText other)

theorem furtherBytes_cons (one : String × Json) (others : List (String × Json))
    (rest : List UInt8) :
    furtherBytes (one :: others) ++ rest =
      0x2c :: 0x22 :: (charBytes (one.1.toList.flatMap escapeChar) ++
        0x22 :: 0x3a :: (charBytes one.2.chars ++ (furtherBytes others ++ rest))) := by
  rw [furtherBytes, List.flatMap_cons, charBytes_append, charBytes_cons, List.append_assoc,
    List.append_assoc, charBytes_memberText]
  rfl

theorem delimited_furtherBytes (others : List (String × Json)) (rest : List UInt8) :
    Delimited (furtherBytes others ++ 0x7d :: rest) := by
  cases others with
  | nil => exact ⟨0x7d, rest, rfl, .inr (.inr rfl)⟩
  | cons one others =>
      rw [furtherBytes_cons]
      exact ⟨0x2c, _, rfl, .inl rfl⟩

theorem token_cons {byte : UInt8} (rest : List UInt8) (h : isSpace byte = false) :
    token (byte :: rest) = some (byte, ⟨rest, Nat.lt_succ_self rest.length⟩) := by
  have hdrop : (byte :: rest).dropWhile isSpace = byte :: rest :=
    List.dropWhile_cons_of_neg (by simp [h])
  unfold token
  split
  next hnone =>
    rw [hdrop] at hnone
    cases hnone
  next other others hsome =>
    rw [hdrop] at hsome
    cases hsome
    rfl

theorem moreMembers_comma {member : String → σ → Reader σ} {before after : σ}
    {whole body left : List UInt8} (h : Gives (memberAfterMark member before) body (.ok after) left)
    (hle : (0x2c :: 0x22 :: body).length ≤ whole.length) :
    ∃ hleft, moreMembers member whole before (0x2c :: 0x22 :: body) hle =
      moreMembers member whole after left hleft := by
  obtain ⟨hlast, hread⟩ := h.exists_eq
  have hbody : body.length ≤ whole.length :=
    Nat.le_trans (Nat.le_succ_of_le (Nat.le_succ body.length)) hle
  refine ⟨Nat.le_trans hlast hbody, ?_⟩
  rw [moreMembers, token_cons _ (by decide)]
  dsimp only
  rw [if_neg (by decide), if_pos rfl, token_cons _ (by decide)]
  dsimp only
  rw [if_pos rfl, hread]

theorem moreMembers_further {member : String → σ → Reader σ} {others : List (String × Json)}
    {before after : σ} (h : TakesAll member before others after) (rest : List UInt8)
    {whole input : List UInt8} (hinput : input = furtherBytes others ++ 0x7d :: rest)
    (hle : input.length ≤ whole.length) :
    (moreMembers member whole before input hle).1 = .ok after ∧
      (moreMembers member whole before input hle).2.1 = 0x7d :: rest := by
  induction h generalizing input with
  | nil read =>
      subst hinput
      rw [moreMembers]
      exact ⟨rfl, rfl⟩
  | @cons one others before middle after hone _ ih =>
      rw [furtherBytes_cons] at hinput
      subst hinput
      obtain ⟨hleft, hnext⟩ := moreMembers_comma
        (gives_memberAfterMark hone (delimited_furtherBytes others rest)) hle
      rw [hnext]
      exact ih rfl hleft

theorem gives_members {member : String → σ → Reader σ} {values : List (String × Json)}
    {before after : σ} (h : TakesAll member before values after) (rest : List UInt8) :
    Gives (members member before) (charBytes (memberChars values) ++ 0x7d :: rest) (.ok after)
      (0x7d :: rest) := by
  unfold members
  cases h with
  | nil =>
      exact (gives_peekToken _ (by decide)).bind (gives_done _ _)
  | @cons one others _ middle _ hone hothers =>
      rw [memberChars_cons, charBytes_append, List.append_assoc, charBytes_memberText]
      refine (gives_peekToken _ (by decide)).bind ((gives_next _ _).bind ?_)
      refine (gives_memberAfterMark hone (delimited_furtherBytes others rest)).bind ?_
      exact moreMembers_further hothers rest rfl (Rest.length_le_self _)

theorem gives_endObject (rest : List UInt8) : Gives endObject (0x7d :: rest) (.ok ()) rest :=
  (gives_peekToken _ (by decide)).bind ((gives_next _ _).bind (gives_done () rest))

/-- A record is read from the members of the object that it is written as. -/
theorem gives_record {fromMembers fromItems : Reader α} {values : List (String × Json)} {found : α}
    {rest : List UInt8}
    (h : Gives fromMembers (charBytes (memberChars values) ++ 0x7d :: rest) (.ok found)
      (0x7d :: rest)) :
    Gives (record fromMembers fromItems) (charBytes (Json.object values).chars ++ rest) (.ok found)
      rest := by
  have hbytes : charBytes (Json.object values).chars ++ rest =
      0x7b :: (charBytes (memberChars values) ++ 0x7d :: rest) := by
    rw [chars, charBytes_cons, charBytes_append, List.append_assoc, List.append_assoc]
    rfl
  rw [hbytes]
  unfold record
  refine (gives_peekToken _ (by decide)).bind ((gives_next _ _).bind ?_)
  exact h.closedBy (gives_endObject rest)

/-! ## Names -/

/-- One of some names is read back from its text. -/
theorem reads_choice {ofName? : String → Option α} {name : String} {found : α}
    (h : ofName? name = some found) : Reads (choice ofName?) (.text name) found := by
  intro rest hrest
  have hname := reads_text name rest hrest
  have hbytes : charBytes (Json.text name).chars ++ rest =
    0x22 :: (charBytes (name.toList.flatMap escapeChar) ++ 0x22 :: rest) :=
    charBytes_quoteChars name.toList rest
  rw [hbytes] at hname ⊢
  unfold choice
  refine (gives_peekToken _ (by decide)).bind (hname.bind ?_)
  rw [h]
  exact gives_done found rest

/-- A value that is a text is no null. -/
theorem reads_optional_text (value : String) :
    Reads (optional text) (.text value) (some value) := by
  intro rest hrest
  have hvalue := reads_text value rest hrest
  have hbytes : charBytes (Json.text value).chars ++ rest =
    0x22 :: (charBytes (value.toList.flatMap escapeChar) ++ 0x22 :: rest) :=
    charBytes_quoteChars value.toList rest
  rw [hbytes] at hvalue ⊢
  unfold optional
  exact (gives_peekToken _ (by decide)).bind (hvalue.map some)

end Reader

/-- A document that is a value and nothing else is read as what the reader finds in it. -/
theorem read_of_gives {item : Reader α} {document : List UInt8} {found : α}
    (h : Gives item document (.ok found) []) : read item document = .ok found := by
  obtain ⟨hle, hread⟩ := h.exists_eq
  unfold read
  rw [hread]
  rfl

theorem utf8_render (value : Json) : utf8 value.render = charBytes value.chars :=
  utf8_ofList value.chars

end FoodOrdering.Json
