import FoodOrdering.Proofs.Json.Passing

/-!
# Members that were read

What a reader of known members has met when it succeeds: names, each with a colon and a value that
the member takes, and commas between them.
-/

namespace FoodOrdering.Json

open Reading Reader

variable {α β σ : Type} {behind input left rest : List UInt8} {depth : Nat} {byte : UInt8}

theorem not_gives_refuse {value : α} : ¬ Gives (refuse : Reader α) input (.ok value) rest := by
  intro h
  obtain ⟨first, middle, _, h⟩ := gives_bind_ok_iff.1 h
  split at h
  next => exact not_gives_fail h
  split at h
  next =>
    obtain ⟨_, _, _, h⟩ := gives_bind_ok_iff.1 h
    obtain ⟨_, _, _, h⟩ := gives_bind_ok_iff.1 h
    exact not_gives_fail h
  split at h
  next =>
    obtain ⟨_, _, _, h⟩ := gives_bind_ok_iff.1 h
    obtain ⟨_, _, _, h⟩ := gives_bind_ok_iff.1 h
    exact not_gives_fail h
  split at h
  next =>
    obtain ⟨_, _, _, h⟩ := gives_bind_ok_iff.1 h
    obtain ⟨_, _, _, h⟩ := gives_bind_ok_iff.1 h
    exact not_gives_fail h
  split at h
  next => exact not_gives_fail h
  next => exact not_gives_fail h

theorem exists_of_gives_text {value : String} (h : Gives Reader.text input (.ok value) rest) :
    ∃ inner, Begins input 0x22 inner ∧ Gives textBody inner (.ok value) rest := by
  obtain ⟨byte, inner, hbegins, hbyte⟩ := exists_of_gives_peekToken_bind not_gives_fail h
  dsimp only at hbyte
  split at hbyte
  next heq =>
    rw [heq] at hbegins
    exact ⟨inner, hbegins, (gives_next byte inner).bind_iff.1 hbyte⟩
  next => exact absurd hbyte not_gives_refuse

theorem exists_of_gives_int64 {word : Int64} (h : Gives int64 input (.ok word) rest) :
    ∃ byte inner, Begins input byte inner ∧ startsNumber byte = true ∧
      Gives (numeral byte) inner (.ok (.integer word.toInt)) rest := by
  obtain ⟨byte, inner, hbegins, hbyte⟩ := exists_of_gives_peekToken_bind not_gives_fail h
  dsimp only at hbyte
  split at hbyte
  next hstarts =>
    rw [(gives_next byte inner).bind_iff] at hbyte
    obtain ⟨number, middle, hnumeral, hword⟩ := gives_bind_ok_iff.1 hbyte
    refine ⟨byte, inner, hbegins, hstarts, ?_⟩
    split at hword
    next value =>
      split at hword
      next other hother =>
        obtain ⟨hsame, rfl⟩ := gives_done_iff.1 hword
        cases hsame
        rw [Text.toInt_of_int64OfInt? hother]
        exact hnumeral
      next => exact absurd hword not_gives_fail
    next => exact absurd hword not_gives_fail
  next => exact absurd hbyte not_gives_refuse

theorem gives_numberText_of_numeral {number : Numeral}
    (h : Gives (numeral byte) input (.ok number) rest) :
    ∃ form, Gives (Reader.numberText byte) input (.ok form) rest := by
  obtain ⟨form, middle, hform, hnumber⟩ := gives_bind_ok_iff.1 h
  unfold Reading.ofExcept at hnumber
  split at hnumber
  next =>
    rw [(gives_done_iff.1 hnumber).2]
    exact ⟨form, hform⟩
  next => exact absurd hnumber not_gives_fail

theorem exists_of_gives_once {before : Option α} {item : Reader α} {found : Option α}
    (h : Gives (once before item) input (.ok found) rest) :
    ∃ value middle, found = some value ∧ Begins input 0x3a middle ∧
      Gives item middle (.ok value) rest := by
  unfold once at h
  split at h
  next => exact absurd h not_gives_fail
  next =>
    obtain ⟨value, last, hvalue, hdone⟩ := gives_bind_ok_iff.1 h
    obtain ⟨hfound, rfl⟩ := gives_done_iff.1 hdone
    obtain ⟨middle, hcolon, hitem⟩ := exists_of_gives_memberValue hvalue
    cases hfound
    exact ⟨value, middle, rfl, hcolon, hitem⟩

theorem exists_of_gives_once_bind {before : Option α} {item : Reader α}
    {convert : Option α → β} {result : β}
    (h : Gives (once before item >>= fun found => done (convert found)) input (.ok result) rest) :
    ∃ value middle, result = convert (some value) ∧ Begins input 0x3a middle ∧
      Gives item middle (.ok value) rest := by
  obtain ⟨found, last, hfound, hdone⟩ := gives_bind_ok_iff.1 h
  obtain ⟨hresult, rfl⟩ := gives_done_iff.1 hdone
  obtain ⟨value, middle, rfl, hcolon, hvalue⟩ := exists_of_gives_once hfound
  cases hresult
  exact ⟨value, middle, rfl, hcolon, hvalue⟩

theorem exists_of_gives_memberValue_bind {item : Reader α} {convert : α → β} {result : β}
    (h : Gives (memberValue item >>= fun found => done (convert found)) input (.ok result) rest) :
    ∃ value middle, result = convert value ∧ Begins input 0x3a middle ∧
      Gives item middle (.ok value) rest := by
  obtain ⟨value, last, hvalue, hdone⟩ := gives_bind_ok_iff.1 h
  obtain ⟨hresult, rfl⟩ := gives_done_iff.1 hdone
  obtain ⟨middle, hcolon, hitem⟩ := exists_of_gives_memberValue hvalue
  cases hresult
  exact ⟨value, middle, rfl, hcolon, hitem⟩

/-- The first item of a list that is not empty. -/
theorem gives_of_element {item : Reader α} {found : Option α}
    (hbegins : Begins input byte left) (hbyte : byte ≠ 0x5d)
    (h : Gives (element true item) input (.ok found) rest) :
    ∃ value, found = some value ∧ Gives item (byte :: left) (.ok value) rest := by
  unfold element at h
  rw [hbegins.gives_peekToken.bind_iff] at h
  split at h
  next heq => cases heq
  next heq =>
    cases heq
    exact absurd rfl hbyte
  next heq =>
    cases heq
    obtain ⟨value, last, hvalue, hdone⟩ := gives_bind_ok_iff.1 h
    obtain ⟨hfound, rfl⟩ := gives_done_iff.1 hdone
    cases hfound
    exact ⟨value, rfl, hvalue⟩

theorem exists_of_read_eq_ok {item : Reader α} {document : List UInt8} {value : α}
    (h : read item document = .ok value) :
    ∃ rest, Gives item document (.ok value) rest ∧ rest.all isSpace = true := by
  unfold Json.read at h
  split at h
  next => cases h
  next found rest hread =>
    split at h
    next hblank =>
      cases h
      exact ⟨rest.1, gives_of_eq hread, hblank⟩
    next => cases h

/-! ## Values of known shapes are passed over -/

theorem ends_text (hdepth : 0 < depth) {value : String} (h : Gives Reader.text input (.ok value) rest) :
    Ends behind .outside depth input ↔ Ends behind .outside depth rest := by
  obtain ⟨inner, hmark, hbody⟩ := exists_of_gives_text h
  rw [hmark.ends_mark hdepth, ends_textBody hbody]

theorem ends_int64 (hdepth : 0 < depth) {word : Int64} (h : Gives int64 input (.ok word) rest) :
    Ends behind .outside depth input ↔ Ends behind .outside depth rest := by
  obtain ⟨byte, inner, hbegins, hstarts, hnumeral⟩ := exists_of_gives_int64 h
  obtain ⟨form, hform⟩ := gives_numberText_of_numeral hnumeral
  rw [hbegins.ends_iff (.outside hdepth), ends_number hstarts hform (.outside hdepth)]

theorem gives_skipAtom_of_skipValue (h : Gives skipValue input (.ok ()) rest)
    (hbegins : Begins input byte left) (hlist : byte ≠ 0x5b) (hobject : byte ≠ 0x7b) :
    Gives (skipAtom byte) left (.ok ()) rest := by
  have hskipped := skipped_skipValue h
  cases hskipped with
  | atom hbyte _ _ hatom hrest =>
      cases hrest
      obtain ⟨rfl, rfl⟩ := hbyte.unique hbegins
      exact hatom
  | emptyList hbyte => exact absurd (hbegins.unique hbyte).1 hlist
  | list hbyte => exact absurd (hbegins.unique hbyte).1 hlist
  | emptyObject hbyte => exact absurd (hbegins.unique hbyte).1 hobject
  | object hbyte => exact absurd (hbegins.unique hbyte).1 hobject

/-- A text is skipped to where its reader stops. -/
theorem eq_of_text_of_skipValue {value : String} (h : Gives Reader.text input (.ok value) rest)
    (hskip : Gives skipValue input (.ok ()) left) : left = rest := by
  obtain ⟨inner, hmark, hbody⟩ := exists_of_gives_text h
  have hatom := gives_skipAtom_of_skipValue hskip hmark (by decide) (by decide)
  have hinside : Ends rest .inside 0 inner := (ends_textBody hbody).2 .here
  exact ends_zero_iff.1 ((ends_skipText hatom).1 hinside)

/-- A number is skipped to where its reader stops. -/
theorem eq_of_int64_of_skipValue {word : Int64} (h : Gives int64 input (.ok word) rest)
    (hskip : Gives skipValue input (.ok ()) left) : left = rest := by
  obtain ⟨byte, inner, hbegins, hstarts, hnumeral⟩ := exists_of_gives_int64 h
  obtain ⟨form, hform⟩ := gives_numberText_of_numeral hnumeral
  have hne := @ne_of_startsNumber byte
  have hatom := gives_skipAtom_of_skipValue hskip hbegins (hne hstarts rfl) (hne hstarts rfl)
  have hword : ¬ (byte = 0x6e ∨ byte = 0x74 ∨ byte = 0x66) :=
    not_or.2 ⟨hne hstarts rfl, not_or.2 ⟨hne hstarts rfl, hne hstarts rfl⟩⟩
  unfold skipAtom at hatom
  rw [if_neg hword, if_neg (hne hstarts rfl), if_pos hstarts] at hatom
  obtain ⟨other, last, hother, hdone⟩ := gives_bind_ok_iff.1 hatom
  rw [(gives_done_iff.1 hdone).2]
  exact (hother.unique hform).2

/-! ## Members -/

/-- The members behind a first one, up to the closing bracket, lead from one state to another. -/
inductive Further (member : String → σ → Reader σ) : σ → List UInt8 → σ → List UInt8 → Prop
  | close {read : σ} {input after : List UInt8} :
      Begins input 0x7d after → Further member read input read input
  | next {read middle last : σ} {name : String} {input comma body value left rest : List UInt8} :
      Begins input 0x2c comma → Begins comma 0x22 body → Gives textBody body (.ok name) value →
        Gives (member name read) value (.ok middle) left → Further member middle left last rest →
          Further member read input last rest

theorem further_moreMembers {member : String → σ → Reader σ} {whole : List UInt8} {read last : σ}
    (hle : input.length ≤ whole.length)
    (h : (moreMembers member whole read input hle).1 = .ok last) :
    Further member read input last (moreMembers member whole read input hle).2.1 := by
  fun_induction moreMembers member whole read input hle with
  | case2 _ _ _ _ _ hclose =>
      cases h
      exact .close (begins_of_token hclose)
  | case5 _ _ _ _ _ _ _ _ _ hmember _ hcomma _ hmark ih =>
      obtain ⟨name, value, hname, hvalue⟩ := gives_bind_ok_iff.1 (gives_of_eq hmember)
      exact .next (begins_of_token hcomma) (begins_of_token hmark) hname hvalue (ih h)
  | _ => cases h

/-- The members of an object, up to the closing bracket. -/
inductive Members (member : String → σ → Reader σ) : σ → List UInt8 → σ → List UInt8 → Prop
  | none {read : σ} {input rest : List UInt8} :
      Begins input 0x7d rest → Members member read input read (0x7d :: rest)
  | some {read middle last : σ} {name : String} {input body value left rest : List UInt8} :
      Begins input 0x22 body → Gives textBody body (.ok name) value →
        Gives (member name read) value (.ok middle) left → Further member middle left last rest →
          Members member read input last rest

theorem members_of_gives {member : String → σ → Reader σ} {read last : σ}
    (h : Gives (members member read) input (.ok last) rest) : Members member read input last rest := by
  obtain ⟨byte, inner, hbegins, hbyte⟩ := exists_of_gives_peekToken_bind not_gives_fail h
  split at hbyte
  next heq =>
    cases heq
    obtain ⟨hlast, rfl⟩ := gives_done_iff.1 hbyte
    cases hlast
    exact .none hbegins
  next heq =>
    cases heq
    rw [(gives_next _ _).bind_iff] at hbyte
    obtain ⟨middle, left, hfirst, hothers⟩ := gives_bind_ok_iff.1 hbyte
    obtain ⟨name, value, hname, hvalue⟩ := gives_bind_ok_iff.1 hfirst
    have hfurther := further_moreMembers (Rest.length_le_self left) hothers.1
    obtain ⟨_, rfl⟩ := hothers
    exact .some hbegins hname hvalue hfurther
  next => exact absurd hbyte not_gives_fail

/-- A record was written as an object or as a list. -/
theorem exists_of_gives_record {fromMembers fromItems : Reader α} {value : α}
    (h : Gives (record fromMembers fromItems) input (.ok value) rest) : ∃ inner middle,
      Begins input 0x7b inner ∧ Gives fromMembers inner (.ok value) middle ∧
        Gives endObject middle (.ok ()) rest ∨
      Begins input 0x5b inner ∧ Gives fromItems inner (.ok value) middle ∧
        Gives endList middle (.ok ()) rest := by
  obtain ⟨byte, inner, hbegins, hbyte⟩ := exists_of_gives_peekToken_bind not_gives_refuse h
  split at hbyte
  next heq =>
    cases heq
    rw [(gives_next _ _).bind_iff] at hbyte
    obtain ⟨middle, hbody, hclose⟩ := gives_closedBy_ok_iff.1 hbyte
    exact ⟨inner, middle, .inl ⟨hbegins, hbody, hclose⟩⟩
  next heq =>
    cases heq
    rw [(gives_next _ _).bind_iff] at hbyte
    obtain ⟨middle, hbody, hclose⟩ := gives_closedBy_ok_iff.1 hbyte
    exact ⟨inner, middle, .inr ⟨hbegins, hbody, hclose⟩⟩
  next => exact absurd hbyte not_gives_refuse

end FoodOrdering.Json
