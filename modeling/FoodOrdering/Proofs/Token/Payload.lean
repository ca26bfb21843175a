import FoodOrdering.Proofs.Json.Members
import FoodOrdering.Proofs.Json.Turned
import FoodOrdering.Proofs.Token.Signed

/-!
# Two readings of one payload

The payload of a token is read twice, for its claims and by the general rules of tokens, and the
second reading goes on after what it does not understand.  It may lose its place, but it does not
come to an end then, so that both agree about the end of validity whenever both succeed.
-/

namespace FoodOrdering.Token

open Json Reader Reading

variable {behind input rest left : List UInt8} {depth : Nat} {byte : UInt8} {name : String}

/-! ## The members of either reading -/

/-- The value of a member of the claims, and the end of validity before and behind it. -/
inductive ClaimValue (name : String) (before : Option Int64) (input : List UInt8) :
    Option Int64 → List UInt8 → Prop
  | expiry {word : Int64} {rest : List UInt8} :
      name = "exp" → Gives int64 input (.ok word) rest → ClaimValue name before input (some word) rest
  | text {value : String} {rest : List UInt8} :
      name ∈ ["sub", "role", "email"] → Gives Reader.text input (.ok value) rest →
        ClaimValue name before input before rest
  | issue {word : Int64} {rest : List UInt8} :
      name = "iat" → Gives int64 input (.ok word) rest → ClaimValue name before input before rest
  | other {rest : List UInt8} :
      name ∉ ["sub", "role", "email", "iat", "exp"] → Gives skipValue input (.ok ()) rest →
        ClaimValue name before input before rest

theorem claimValue_of_gives {read next : Claims.Partial}
    (h : Gives (Claims.member name read) input (.ok next) rest) :
    ∃ middle, Begins input 0x3a middle ∧ ClaimValue name read.exp middle next.exp rest := by
  unfold Claims.member at h
  split at h
  next heq =>
    obtain ⟨value, middle, rfl, hcolon, hvalue⟩ := exists_of_gives_once_bind h
    exact ⟨middle, hcolon, .text (by simp [heq]) hvalue⟩
  split at h
  next heq =>
    obtain ⟨value, middle, rfl, hcolon, hvalue⟩ := exists_of_gives_once_bind h
    exact ⟨middle, hcolon, .text (by simp [heq]) hvalue⟩
  split at h
  next heq =>
    obtain ⟨value, middle, rfl, hcolon, hvalue⟩ := exists_of_gives_once_bind h
    exact ⟨middle, hcolon, .text (by simp [heq]) hvalue⟩
  split at h
  next heq =>
    obtain ⟨value, middle, rfl, hcolon, hvalue⟩ := exists_of_gives_once_bind h
    exact ⟨middle, hcolon, .issue heq hvalue⟩
  split at h
  next heq =>
    obtain ⟨value, middle, rfl, hcolon, hvalue⟩ := exists_of_gives_once_bind h
    exact ⟨middle, hcolon, .expiry heq hvalue⟩
  next hsub hrole hemail hiat hexp =>
    obtain ⟨value, middle, rfl, hcolon, hvalue⟩ := exists_of_gives_memberValue_bind h
    exact ⟨middle, hcolon, .other (by simp [hsub, hrole, hemail, hiat, hexp]) hvalue⟩

/-- The names that the general rules know. -/
def registeredNames : List String :=
  ["exp", "nbf", "sub", "iss", "aud"]

/-- The value of a member by the general rules, and the end of validity before and behind it. -/
inductive GeneralValue (name : String) (before : Option Int) (input : List UInt8) :
    Option Int → List UInt8 → Prop
  | expiry {found : Option Int} {rest : List UInt8} :
      name = "exp" → Gives time input (.ok found) rest → GeneralValue name before input found rest
  | start {found : Option Int} {rest : List UInt8} :
      name = "nbf" → Gives time input (.ok found) rest → GeneralValue name before input before rest
  | subject {found : Option (Option String)} {rest : List UInt8} :
      name = "sub" → Gives (attempt (Reader.optional Reader.text)) input (.ok found) rest →
        GeneralValue name before input before rest
  | parties {found : Bool} {rest : List UInt8} :
      name ∈ ["iss", "aud"] → Gives names input (.ok found) rest →
        GeneralValue name before input before rest
  | other {rest : List UInt8} :
      name ∉ registeredNames → Gives skipValue input (.ok ()) rest →
        GeneralValue name before input before rest

theorem generalValue_of_gives {read next : Registered}
    (h : Gives (registeredMember name read) input (.ok next) rest) :
    ∃ middle, Begins input 0x3a middle ∧
      GeneralValue name read.expiry middle next.expiry rest := by
  unfold registeredMember at h
  split at h
  next hname =>
    split at h
    next => exact absurd h not_gives_fail
    dsimp only at h
    split at h
    next heq =>
      obtain ⟨value, middle, rfl, hcolon, hvalue⟩ := exists_of_gives_memberValue_bind h
      exact ⟨middle, hcolon, .expiry heq hvalue⟩
    split at h
    next heq =>
      obtain ⟨value, middle, rfl, hcolon, hvalue⟩ := exists_of_gives_memberValue_bind h
      exact ⟨middle, hcolon, .start heq hvalue⟩
    split at h
    next heq =>
      obtain ⟨value, middle, rfl, hcolon, hvalue⟩ := exists_of_gives_memberValue_bind h
      exact ⟨middle, hcolon, .subject heq hvalue⟩
    next hexp hnbf hsub =>
      obtain ⟨value, middle, rfl, hcolon, hvalue⟩ := exists_of_gives_memberValue_bind h
      have hparty : name ∈ ["iss", "aud"] := by simpa [hexp, hnbf, hsub] using hname
      refine ⟨middle, hcolon, ?_⟩
      split
      next => exact .parties hparty hvalue
      next => exact .parties hparty hvalue
  next hname =>
    obtain ⟨value, middle, rfl, hcolon, hvalue⟩ := exists_of_gives_memberValue_bind h
    exact ⟨middle, hcolon, .other hname hvalue⟩

theorem ClaimValue.ends_iff {before after : Option Int64} (hdepth : 0 < depth)
    (h : ClaimValue name before input after rest) :
    Ends behind .outside depth input ↔ Ends behind .outside depth rest := by
  cases h with
  | expiry _ hword => exact ends_int64 hdepth hword
  | text _ hvalue => exact ends_text hdepth hvalue
  | issue _ hword => exact ends_int64 hdepth hword
  | other _ hvalue => exact ends_skipValue hdepth hvalue

/-! ## Values that the general rules do not understand -/

theorem strays_time {found : Option Int} (hbegins : Begins input byte left)
    (h : Starts behind depth byte left) (hread : Gives time input (.ok found) rest) :
    Strays behind depth rest := by
  unfold time at hread
  refine strays_of_attempt ?_ hread
  rw [leads_bind_iff hbegins.gives_peekToken]
  dsimp only
  have hother : ¬ (byte = 0x5b ∨ byte = 0x7b) →
      Leads behind depth (refuse : Reader Int) (byte :: left) :=
    fun hbracket => leads_refuse h fun hopening => absurd hopening hbracket
  cases h with
  | bracket hopening hends =>
      rcases hopening with rfl | rfl
      · rw [if_neg (by decide), if_pos rfl, leads_bind_iff (gives_next _ _)]
        exact leads_closedBy_fail closes_endList hends
      · rw [if_neg (by decide), if_neg (by decide), if_pos rfl, leads_bind_iff (gives_next _ _)]
        exact leads_closedBy_fail closes_endObject hends
  | number hstarts hends =>
      rw [if_pos hstarts, leads_bind_iff (gives_next _ _)]
      refine (leads_numeral hends).bind fun number last _ hlast => ?_
      split
      next =>
        split
        next => exact leads_done _ hlast
        next => exact leads_fail _ (strays_of_outside hlast)
      next => exact leads_fail _ (strays_of_outside hlast)
  | text =>
      rw [if_neg (by decide), if_neg (by decide), if_neg (by decide)]
      exact hother (by decide)
  | word hword =>
      have hne : ∀ other, startsWord other = false → ¬ byte = other := by
        rintro other hfalse rfl
        rw [hword] at hfalse
        cases hfalse
      have hnumber := not_startsNumber_of_startsWord hword
      rw [if_neg (Bool.eq_false_iff.1 hnumber), if_neg (hne 0x5b rfl), if_neg (hne 0x7b rfl)]
      exact hother (not_or.2 ⟨hne 0x5b rfl, hne 0x7b rfl⟩)
  | other _ hbracket _ hnumber =>
      obtain ⟨hlist, hobject⟩ := not_or.1 hbracket
      rw [if_neg (Bool.eq_false_iff.1 hnumber), if_neg hlist, if_neg hobject]
      exact hother hbracket

theorem strays_names {found : Bool} (hbegins : Begins input byte left)
    (h : Starts behind depth byte left) (hread : Gives names input (.ok found) rest) :
    Strays behind depth rest := by
  obtain ⟨attempted, middle, hattempt, hdone⟩ := gives_bind_ok_iff.1 hread
  rw [(gives_done_iff.1 hdone).2]
  refine strays_of_attempt ?_ hattempt
  have hvalue : Leads behind depth (value claimDepth) (byte :: left) :=
    leads_value_of_starts claimDepth (fun inner _ _ => leads_value inner (Nat.succ_pos depth))
      (.self hbegins.isSpace_eq) h nofun
  refine (leads_optional hbegins h hvalue).bind fun value last _ hlast => ?_
  split
  next => exact leads_done _ hlast
  next => exact leads_done _ hlast
  next => exact leads_done _ hlast
  next => exact leads_done _ hlast

/-- By the general rules a value inside of brackets is not left before its time. -/
theorem GeneralValue.strays {before after : Option Int} (hdepth : 0 < depth)
    (hends : Ends behind .outside depth input) (h : GeneralValue name before input after rest) :
    Strays behind depth rest := by
  obtain ⟨byte, inner, hbegins, hbyte⟩ := exists_begins hdepth hends
  have hstarts := starts_of_ends hdepth hbyte
  cases h with
  | expiry _ hread => exact strays_time hbegins hstarts hread
  | start _ hread => exact strays_time hbegins hstarts hread
  | subject _ hread =>
      exact strays_of_attempt (leads_optional hbegins hstarts (leads_text hdepth hbyte)) hread
  | parties _ hread => exact strays_names hbegins hstarts hread
  | other _ hread => exact strays_of_outside ((ends_skipValue hdepth hread).1 hends)

/-! ## Values that both readings take -/

/-- The end of validity by the general rules is one that the claims state, and no time before all
time. -/
def Agree (claimed : Option Int64) (general : Option Int) : Prop :=
  general.isSome = true → ∃ word, claimed = some word ∧ 0 ≤ word.toInt

theorem eq_of_text_of_attempt {value : String} {found : Option (Option String)}
    (h : Gives Reader.text input (.ok value) rest)
    (hattempt : Gives (attempt (Reader.optional Reader.text)) input (.ok found) left) :
    left = rest := by
  obtain ⟨inner, hmark, hbody⟩ := exists_of_gives_text h
  have htext : Gives Reader.text (0x22 :: inner) (.ok value) rest :=
    (gives_peekToken inner rfl).bind ((gives_next 0x22 inner).bind hbody)
  have hoptional : Gives (Reader.optional Reader.text) input (.ok (some value)) rest :=
    hmark.gives_peekToken.bind (htext.map some)
  exact (hattempt.unique hoptional.attempt).2

theorem agree_of_int64_of_time {word : Int64} {found : Option Int}
    (h : Gives int64 input (.ok word) rest) (htime : Gives time input (.ok found) left) :
    left = rest ∧ Agree (some word) found := by
  obtain ⟨byte, inner, hbegins, hstarts, hnumeral⟩ := exists_of_gives_int64 h
  have hread := gives_time_of_integer hbegins hstarts hnumeral
  obtain ⟨hfound, hleft⟩ := htime.unique hread
  cases hfound
  refine ⟨hleft, fun hsome => ⟨word, rfl, ?_⟩⟩
  split at hsome
  next hle => exact hle
  next => cases hsome

/-- From one place before a value, the general reading comes out where the claims' reading does, or
astray. -/
theorem strays_and_agree {claimed claimed' : Option Int64} {general general' : Option Int}
    (hclaim : ClaimValue name claimed input claimed' rest)
    (hgeneral : GeneralValue name general input general' left) (hagree : Agree claimed general) :
    Strays rest 0 left ∧ Agree claimed' general' := by
  have hsame : left = rest → Strays rest 0 left := by
    rintro rfl
    exact strays_of_outside .here
  cases hclaim with
  | expiry hname hword =>
      cases hgeneral with
      | expiry _ htime =>
          obtain ⟨hleft, hboth⟩ := agree_of_int64_of_time hword htime
          exact ⟨hsame hleft, hboth⟩
      | start hother => simp [hname] at hother
      | subject hother => simp [hname] at hother
      | parties hother => simp [hname] at hother
      | other hother => simp [hname, registeredNames] at hother
  | text hname htext =>
      cases hgeneral with
      | expiry hother => simp [hother] at hname
      | start hother => simp [hother] at hname
      | subject _ hattempt => exact ⟨hsame (eq_of_text_of_attempt htext hattempt), hagree⟩
      | parties hother =>
          simp only [List.mem_cons, List.not_mem_nil, or_false] at hother
          rcases hother with rfl | rfl
          · simp at hname
          · simp at hname
      | other _ hskip => exact ⟨hsame (eq_of_text_of_skipValue htext hskip), hagree⟩
  | issue hname hword =>
      cases hgeneral with
      | expiry hother => simp [hname] at hother
      | start hother => simp [hname] at hother
      | subject hother => simp [hname] at hother
      | parties hother => simp [hname] at hother
      | other _ hskip => exact ⟨hsame (eq_of_int64_of_skipValue hword hskip), hagree⟩
  | other hname hvalue =>
      obtain ⟨byte, inner, hbegins, hstarts⟩ := exists_starts_of_skipValue hvalue
      cases hgeneral with
      | expiry hother => simp [hother] at hname
      | start _ htime => exact ⟨strays_time hbegins hstarts htime, hagree⟩
      | subject hother => simp [hother] at hname
      | parties _ hnames => exact ⟨strays_names hbegins hstarts hnames, hagree⟩
      | other _ hskip => exact ⟨hsame (hskip.unique hvalue).2, hagree⟩

/-! ## A lost place -/

/-- The input goes on inside of a text, or between more than one bracket. -/
inductive Astray (behind input : List UInt8) : Prop
  | inside : Inside behind input → Astray behind input
  | deep {depth : Nat} : 1 < depth → Ends behind .outside depth input → Astray behind input

theorem Strays.astray (h : Strays behind 2 input) : Astray behind input := by
  obtain ⟨mode, more, rfl | rfl, hmore, hends⟩ := h
  · exact .inside ⟨more, hends⟩
  · exact .deep hmore hends

/-- Who comes out elsewhere than behind the value is astray. -/
theorem eq_or_astray (h : Strays rest 0 left) (hrest : Ends behind .outside 1 rest) :
    left = rest ∨ Astray behind left := by
  obtain ⟨mode, more, rfl | rfl, _, hends⟩ := h
  · exact .inr (.inside ⟨more + 1, hends.trans Nat.one_pos hrest⟩)
  · cases more with
    | zero => exact .inl (ends_zero_iff.1 hends)
    | succ more => exact .inr (.deep (by omega) (hends.trans Nat.one_pos hrest))

/-- Behind a lost place no document ends. -/
theorem Astray.not_closed (h : Astray behind input) (hclose : Begins input 0x7d rest) :
    ¬ rest.all isSpace = true := by
  intro hblank
  cases h with
  | inside hinside =>
      obtain ⟨depth, hends⟩ := hinside.passes hclose (by decide)
      exact not_ends_of_blank hblank .inside hends
  | @deep depth hdepth hends =>
      cases depth with
      | zero => cases hdepth
      | succ depth =>
          rw [hclose.ends_closing (.inr rfl)] at hends
          exact not_ends_of_blank hblank (.outside (Nat.lt_of_succ_lt_succ hdepth)) hends

/-- Outside of texts no name stands that the general rules know. -/
theorem not_registered_of_ends (hblank : behind.all isSpace = true)
    (h : Ends behind .outside depth (Text.utf8 name ++ rest)) : name ∉ registeredNames := by
  have hfirst : ∀ first others, Text.utf8 name = first :: others → isSpace first = false →
      0 < depth := by
    intro first others hname hspace
    rw [hname] at h
    cases depth with
    | zero =>
        rw [← ends_zero_iff.1 h, List.cons_append, List.all_cons, hspace] at hblank
        cases hblank
    | succ depth => exact Nat.succ_pos depth
  intro hname
  simp only [registeredNames, List.mem_cons, List.not_mem_nil, or_false] at hname
  rcases hname with rfl | rfl | rfl | rfl | rfl
  · have hpos := hfirst 0x65 _ rfl rfl
    have hends : Ends behind .outside depth (0x65 :: 0x78 :: 0x70 :: rest) := h
    rw [ends_of_step (isOpen_of_pos hpos) (step_filler rfl)] at hends
    exact not_ends_of_step hpos rfl hends
  · have hpos := hfirst 0x6e _ rfl rfl
    have hends : Ends behind .outside depth (0x6e :: 0x62 :: 0x66 :: rest) := h
    rw [ends_startsWord hpos rfl, ends_word hpos] at hends
    obtain ⟨_, hword, _⟩ := hends
    cases hword
  · have hpos := hfirst 0x73 _ rfl rfl
    exact not_ends_of_step hpos rfl h
  · have hpos := hfirst 0x69 _ rfl rfl
    exact not_ends_of_step hpos rfl h
  · have hpos := hfirst 0x61 _ rfl rfl
    exact not_ends_of_step hpos rfl h

theorem Astray.further {general general' : Registered} (hblank : behind.all isSpace = true)
    (h : Further registeredMember general input general' left) (hastray : Astray behind input) :
    Astray behind left := by
  induction h with
  | close => exact hastray
  | @next read next _ name _ _ body value _ _ hcomma hmark hname hmember _ ih =>
      apply ih
      obtain ⟨middle, hcolon, hvalue⟩ := generalValue_of_gives hmember
      generalize read.expiry = before at hvalue
      generalize next.expiry = after at hvalue
      cases hastray with
      | inside hinside =>
          obtain ⟨depth, hends⟩ := (hinside.passes hcomma (by decide)).begins hmark
          rw [ends_inside_mark] at hends
          obtain ⟨hbytes, hbehind⟩ :=
            exists_of_turned_textBody hblank (turned_of_ends hends) hname
          rw [hbytes] at hends
          have hunknown := not_registered_of_ends hblank hends
          have hmiddle := hbehind.passes hcolon (by decide)
          cases hvalue with
          | expiry heq => simp [heq, registeredNames] at hunknown
          | start heq => simp [heq, registeredNames] at hunknown
          | subject heq => simp [heq, registeredNames] at hunknown
          | parties hparty =>
              simp only [List.mem_cons, List.not_mem_nil, or_false] at hparty
              rcases hparty with heq | heq
              · simp [heq, registeredNames] at hunknown
              · simp [heq, registeredNames] at hunknown
          | other _ hskip => exact .inside (hmiddle.skipValue hblank hskip)
      | @deep depth hdepth hends =>
          have hpositive : 0 < depth := Nat.zero_lt_of_lt hdepth
          have hcalm : Calm .outside depth := .outside hpositive
          rw [hcomma.ends_filler rfl hcalm, hmark.ends_mark hpositive, ends_textBody hname,
            hcolon.ends_filler rfl hcalm] at hends
          obtain ⟨mode, more, hcalm, hmore, hleft⟩ := hvalue.strays hpositive hends
          exact Strays.astray ⟨mode, more, hcalm, Nat.le_trans hdepth hmore, hleft⟩

/-! ## Whole payloads -/

theorem ends_further {read last : Claims.Partial} (hdepth : 0 < depth)
    (h : Further Claims.member read input last rest) :
    Ends behind .outside depth input ↔ Ends behind .outside depth rest := by
  induction h with
  | close => exact Iff.rfl
  | next hcomma hmark hname hmember _ ih =>
      obtain ⟨middle, hcolon, hvalue⟩ := claimValue_of_gives hmember
      have hcalm : Calm .outside depth := .outside hdepth
      rw [hcomma.ends_filler rfl hcalm, hmark.ends_mark hdepth, ends_textBody hname,
        hcolon.ends_filler rfl hcalm, hvalue.ends_iff hdepth, ih]

section Whole

variable {claims claims' : Claims.Partial} {general general' : Registered} {middle : List UInt8}

/-- Behind a member both readings are at one place, since from another the general one would not
come to an end. -/
theorem eq_and_agree_of_member {other : String} {value value' final last : List UInt8}
    {whole : Registered} (hblank : behind.all isSpace = true)
    (hname : Gives textBody input (.ok name) value)
    (hclaims : Gives (Claims.member name claims) value (.ok claims') middle)
    (hends : Ends behind .outside 1 middle)
    (hother : Gives textBody input (.ok other) value')
    (hgeneral : Gives (registeredMember other general) value' (.ok general') left)
    (hothers : Further registeredMember general' left whole final)
    (hend : Begins final 0x7d last) (hlast : last.all isSpace = true)
    (hagree : Agree claims.exp general.expiry) :
    left = middle ∧ Agree claims'.exp general'.expiry := by
  obtain ⟨hsame, rfl⟩ := hname.unique hother
  cases hsame
  obtain ⟨inner, hcolon, hclaim⟩ := claimValue_of_gives hclaims
  obtain ⟨inner', hcolon', hvalue⟩ := generalValue_of_gives hgeneral
  obtain ⟨_, rfl⟩ := hcolon.unique hcolon'
  obtain ⟨hstrays, hboth⟩ := strays_and_agree hclaim hvalue hagree
  rcases eq_or_astray hstrays hends with heq | hastray
  · exact ⟨heq, hboth⟩
  · exact absurd hlast ((hastray.further hblank hothers).not_closed hend)

/-- Whoever has read all further members was between the brackets of the object. -/
theorem ends_of_further (h : Further Claims.member claims input claims' middle)
    (hclose : Begins middle 0x7d behind) : Ends behind .outside 1 input :=
  (ends_further Nat.one_pos h).2 ((hclose.ends_closing (.inr rfl)).2 .here)

theorem agree_of_further {last : List UInt8} (hblank : behind.all isSpace = true)
    (hclaims : Further Claims.member claims input claims' middle)
    (hclose : Begins middle 0x7d behind)
    (hgeneral : Further registeredMember general input general' left)
    (hend : Begins left 0x7d last) (hlast : last.all isSpace = true)
    (hagree : Agree claims.exp general.expiry) : Agree claims'.exp general'.expiry := by
  induction hclaims generalizing general with
  | close hbegins =>
      cases hgeneral with
      | close => exact hagree
      | next hcomma => cases (hbegins.unique hcomma).1
  | next hcomma hmark hname hmember hfurther ih =>
      cases hgeneral with
      | close hbegins => cases (hcomma.unique hbegins).1
      | next hother hquote htext hvalue hothers =>
          obtain ⟨_, rfl⟩ := hcomma.unique hother
          obtain ⟨_, rfl⟩ := hmark.unique hquote
          obtain ⟨rfl, hboth⟩ := eq_and_agree_of_member hblank hname hmember
            (ends_of_further hfurther hclose) htext hvalue hothers hend hlast hagree
          exact ih hclose hothers hboth

theorem agree_of_gives_members {last : List UInt8} (hblank : behind.all isSpace = true)
    (hclaims : Gives (members Claims.member claims) input (.ok claims') middle)
    (hclose : Begins middle 0x7d behind)
    (hgeneral : Gives (members registeredMember general) input (.ok general') left)
    (hend : Begins left 0x7d last) (hlast : last.all isSpace = true)
    (hagree : Agree claims.exp general.expiry) : Agree claims'.exp general'.expiry := by
  cases members_of_gives hclaims with
  | none hbegins =>
      cases members_of_gives hgeneral with
      | none => exact hagree
      | some hmark => cases (hbegins.unique hmark).1
  | some hmark hname hmember hfurther =>
      cases members_of_gives hgeneral with
      | none hbegins => cases (hmark.unique hbegins).1
      | some hquote htext hvalue hothers =>
          obtain ⟨_, rfl⟩ := hmark.unique hquote
          obtain ⟨rfl, hboth⟩ := eq_and_agree_of_member hblank hname hmember
            (ends_of_further hfurther hclose) htext hvalue hothers hend hlast hagree
          exact agree_of_further hblank hfurther hclose hothers hend hlast hboth

end Whole

/-- A text is no time. -/
theorem eq_none_of_time {found : Option Int} (hbegins : Begins input 0x22 left)
    (h : Gives time input (.ok found) rest) : found = none := by
  cases found with
  | none => rfl
  | some value =>
      obtain ⟨byte, inner, hbyte, hread⟩ :=
        exists_of_gives_peekToken_bind not_gives_fail (gives_of_attempt h)
      obtain ⟨rfl, rfl⟩ := hbyte.unique hbegins
      exact absurd hread not_gives_refuse

theorem begins_of_fromItems {claims : Claims}
    (h : Gives Claims.fromItems input (.ok claims) rest) : ∃ inner, Begins input 0x22 inner := by
  obtain ⟨sub, middle, hsub, _⟩ := gives_bind_ok_iff.1 h
  obtain ⟨found, last, hfound, hdone⟩ := gives_bind_ok_iff.1 hsub
  obtain ⟨byte, inner, hbegins, hitem⟩ := exists_of_gives_peekToken_bind not_gives_fail hfound
  by_cases hbyte : byte = 0x5d
  · subst hbyte
    cases (gives_done_iff.1 hitem).1
    exact absurd hdone not_gives_fail
  · obtain ⟨value, rfl, htext⟩ := gives_of_element hbegins hbyte hfound
    obtain ⟨body, hmark, _⟩ := exists_of_gives_text htext
    obtain ⟨rfl, _⟩ := hmark.unique (.self hbegins.isSpace_eq)
    exact ⟨inner, hbegins⟩

/-- In a list the end of validity is not where the claims have their subject. -/
theorem expiry_of_registeredItems {general : Registered} (hbegins : Begins input 0x22 left)
    (h : Gives registeredItems input (.ok general) rest) : general.expiry = none := by
  obtain ⟨found, _, hfound, h⟩ := gives_bind_ok_iff.1 h
  obtain ⟨_, _, _, h⟩ := gives_bind_ok_iff.1 h
  obtain ⟨_, _, _, h⟩ := gives_bind_ok_iff.1 h
  obtain ⟨_, _, _, h⟩ := gives_bind_ok_iff.1 h
  obtain ⟨_, _, _, h⟩ := gives_bind_ok_iff.1 h
  cases (gives_done_iff.1 h).1
  obtain ⟨value, rfl, htime⟩ := gives_of_element hbegins (by decide) hfound
  exact eq_none_of_time (.self rfl) htime

theorem exists_of_gives_fromMembers {claims : Claims}
    (h : Gives Claims.fromMembers input (.ok claims) rest) :
    ∃ read, Gives (members Claims.member {}) input (.ok read) rest ∧
      read.exp = some claims.exp := by
  obtain ⟨read, middle, hread, hclaims⟩ := gives_bind_ok_iff.1 h
  split at hclaims
  next sub iat exp _ _ hexp =>
    obtain ⟨hsame, rfl⟩ := gives_done_iff.1 hclaims
    cases hsame
    exact ⟨read, hread, hexp⟩
  next => exact absurd hclaims not_gives_fail

/-- If both readings succeed and the general one finds an end of validity, it is no time before all
time. -/
theorem nonneg_of_registered {payload : List UInt8} {claims : Claims} {general : Registered}
    (hclaims : Claims.ofPayload payload = .ok claims) (hgeneral : registered payload = .ok general)
    (hexpiry : general.expiry.isSome = true) : 0 ≤ claims.exp.toInt := by
  obtain ⟨behind, hread, hblank⟩ := exists_of_read_eq_ok hclaims
  obtain ⟨last, hother, hlast⟩ := exists_of_read_eq_ok hgeneral
  obtain ⟨inner, middle, hobject | hlist⟩ := exists_of_gives_record hread
  · obtain ⟨hbegins, hbody, hclose⟩ := hobject
    obtain ⟨inner', left, ⟨hsame, hmembers, hend⟩ | ⟨hsame, _⟩⟩ := exists_of_gives_record hother
    · obtain ⟨_, rfl⟩ := hbegins.unique hsame
      obtain ⟨read, hmembersRead, hexp⟩ := exists_of_gives_fromMembers hbody
      obtain ⟨word, hword, hpositive⟩ := agree_of_gives_members hblank hmembersRead
        (exists_of_gives_endObject hclose) hmembers (exists_of_gives_endObject hend) hlast nofun
        hexpiry
      rw [hexp] at hword
      cases hword
      exact hpositive
    · cases (hbegins.unique hsame).1
  · obtain ⟨hbegins, hbody, _⟩ := hlist
    obtain ⟨inner', left, ⟨hsame, _⟩ | ⟨hsame, hitems, _⟩⟩ := exists_of_gives_record hother
    · cases (hbegins.unique hsame).1
    · obtain ⟨_, rfl⟩ := hbegins.unique hsame
      obtain ⟨first, hfirst⟩ := begins_of_fromItems hbody
      rw [expiry_of_registeredItems hfirst hitems] at hexpiry
      cases hexpiry

end FoodOrdering.Token
