import FoodOrdering.Proofs.Identity.Hop
import FoodOrdering.Proofs.Identity.RoleLists
import FoodOrdering.Proofs.Text.Decimal

/-!
# Headers that state an identity

An identity is stated by the first values of three headers: the numeral of a positive number with
spaces and tabs around it, a comma list in which a role is spelled, and an e-mail address that may
be missing or unreadable.  Main statement: a service reads an identity exactly where a peer that the
zone admits states it, and no other header and no later value has a part in it.
-/

namespace FoodOrdering

namespace Http.Headers

variable {headers : Headers} {name text : String}

/-- The first value under a name is readable, and this is its text. -/
def Reads (headers : Headers) (name text : String) : Prop :=
  (headers.getAll name).head? = some (Text.utf8 text) ∧ IsPlain text

theorem head?_getAll (headers : Headers) (name : String) :
    (headers.getAll name).head? = headers.get? name := by
  rw [getAll, List.head?_map, List.head?_filter, get?]

theorem getText?_eq_some_iff : headers.getText? name = some text ↔ headers.Reads name text := by
  rw [getText?, Option.bind_eq_some_iff, Reads, head?_getAll]
  constructor
  · rintro ⟨value, hvalue, htext⟩
    obtain ⟨rfl, hplain⟩ := textOf?_eq_some_iff.1 htext
    exact ⟨hvalue, hplain⟩
  · rintro ⟨hvalue, hplain⟩
    exact ⟨_, hvalue, textOf?_utf8 hplain⟩

end Http.Headers

namespace Identity

/-! ## User ids -/

/-- The numeral of a number from 1 to 2^63 - 1, with spaces and tabs around it. -/
def IsIdText (text : String) (number : Nat) : Prop :=
  ∃ before numeral behind : String, text = before ++ numeral ++ behind ∧
    (∀ c ∈ before.toList ++ behind.toList, c = ' ' ∨ c = '\t') ∧
    Text.IsNumeral numeral number ∧ 1 ≤ number ∧ number ≤ 2 ^ 63 - 1

theorem isBlank_iff_of_isPlainChar {c : Char} (h : Http.IsPlainChar c) :
    Text.isBlank c = true ↔ c = ' ' ∨ c = '\t' := by
  constructor
  · intro hblank
    rcases h with ⟨hlow, hhigh⟩ | htab
    · left
      by_contra hspace
      have hne : c.toNat ≠ ' '.toNat := fun heq => hspace (Char.toNat_inj.1 heq)
      have hvisible : 0x21 ≤ c.toNat := Nat.lt_of_le_of_ne hlow (Ne.symm hne)
      rw [Text.isBlank_of_visible ⟨hvisible, hhigh⟩] at hblank
      cases hblank
    · exact Or.inr htab
  · rintro (rfl | rfl) <;> decide

theorem isBlank_of_mem_numeral {numeral : String} {number : Nat}
    (h : Text.IsNumeral numeral number) {c : Char} (hc : c ∈ numeral.toList) :
    Text.isBlank c = false := by
  obtain ⟨digits, hnumeral, -, hdigits, -⟩ := h
  have hdigit : c ∈ digits → Text.isBlank c = false := by
    intro hmem
    have hrange := Text.range_of_isDigit (hdigits c hmem)
    exact Text.isBlank_of_visible ⟨by omega, by omega⟩
  rcases hnumeral with hnumeral | hnumeral
  · exact hdigit (hnumeral ▸ hc)
  · rw [hnumeral] at hc
    rcases List.mem_cons.1 hc with rfl | hmem
    · decide
    · exact hdigit hmem

theorem toList_numeral_ne_nil {numeral : String} {number : Nat}
    (h : Text.IsNumeral numeral number) : numeral.toList ≠ [] := by
  obtain ⟨digits, hnumeral | hnumeral, hne, -⟩ := h
  · rwa [hnumeral]
  · rw [hnumeral]
    exact List.cons_ne_nil _ _

/-- Of a plain text trimming takes the spaces and tabs around it. -/
theorem isIdText_iff_of_isPlain {text : String} {number : Nat} (h : Http.IsPlain text) :
    IsIdText text number ↔
      Text.IsNumeral (Text.trim text) number ∧ 1 ≤ number ∧ number ≤ 2 ^ 63 - 1 := by
  constructor
  · rintro ⟨before, numeral, behind, rfl, hblank, hnumeral, hrange⟩
    have hspace : ∀ c ∈ before.toList ++ behind.toList, Text.isBlank c = true := by
      intro c hc
      rcases hblank c hc with rfl | rfl <;> decide
    rw [List.forall_mem_append] at hspace
    have htrim : Text.trim (before ++ numeral ++ behind) = numeral := by
      rw [Text.trim, String.toList_append, String.toList_append,
        Text.trimChars_append (toList_numeral_ne_nil hnumeral)
          (fun c hc => isBlank_of_mem_numeral hnumeral hc) hspace.1 hspace.2,
        String.ofList_toList]
    rw [htrim]
    exact ⟨hnumeral, hrange⟩
  · rintro ⟨hnumeral, hrange⟩
    obtain ⟨before, behind, htext, hbefore, hbehind⟩ := Text.exists_around_trimChars text.toList
    have hplain : ∀ c ∈ before ++ behind, Http.IsPlainChar c := by
      intro c hc
      apply h c
      rw [htext]
      rcases List.mem_append.1 hc with hc | hc <;> simp [hc]
    refine ⟨String.ofList before, Text.trim text, String.ofList behind, ?_, ?_, hnumeral, hrange⟩
    · rw [← String.toList_inj, htext]
      simp [Text.trim]
    · rw [String.toList_ofList, String.toList_ofList]
      intro c hc
      rw [← isBlank_iff_of_isPlainChar (hplain c hc)]
      exact (List.mem_append.1 hc).elim (hbefore c) (hbehind c)

/-- The first user id is the text of this number. -/
def StatesUserId (headers : Http.Headers) (number : Nat) : Prop :=
  ∃ text, headers.Reads IdentityHeaders.userId text ∧ IsIdText text number

theorem userIdOf?_eq_some_iff {headers : Http.Headers} {id : Int64} :
    (headers.get? IdentityHeaders.userId).bind userIdOf? = some id ↔
      ∃ number, StatesUserId headers number ∧ id.toInt = number := by
  have hread : (headers.get? IdentityHeaders.userId).bind userIdOf? =
      (headers.getText? IdentityHeaders.userId).bind fun text =>
        (Text.readInt64? (Text.trim text)).filter fun id => 0 < id :=
    (Option.bind_assoc ..).symm
  rw [hread, Option.bind_eq_some_iff]
  simp only [Http.Headers.getText?_eq_some_iff, Option.filter_eq_some_iff, decide_eq_true_eq,
    Text.readInt64?_eq_some_and_pos_iff]
  constructor
  · rintro ⟨text, htext, number, hnumeral, hlow, hhigh, hid⟩
    exact ⟨number, ⟨text, htext, (isIdText_iff_of_isPlain htext.2).2 ⟨hnumeral, hlow, hhigh⟩⟩, hid⟩
  · rintro ⟨number, ⟨text, htext, hidText⟩, hid⟩
    obtain ⟨hnumeral, hlow, hhigh⟩ := (isIdText_iff_of_isPlain htext.2).1 hidText
    exact ⟨text, htext, number, hnumeral, hlow, hhigh, hid⟩

theorem StatesUserId.pos {headers : Http.Headers} {number : Nat} (h : StatesUserId headers number)
    {id : Int64} (hid : id.toInt = number) : 0 < id := by
  obtain ⟨text, -, before, numeral, behind, -, -, -, hlow, -⟩ := h
  rw [Int64.lt_iff_toInt_lt, hid]
  exact Int.natCast_pos.2 hlow

/-- The number that is stated fits a word. -/
theorem StatesUserId.exists_word {headers : Http.Headers} {number : Nat}
    (h : StatesUserId headers number) : ∃ id : Int64, id.toInt = number := by
  obtain ⟨text, -, before, numeral, behind, -, -, -, -, hhigh⟩ := h
  exact ⟨Int64.ofInt number, Int64.toInt_ofInt_of_le (by omega) (by omega)⟩

end Identity

/-! ## Roles -/

namespace Role

/-- The roles that the segments of a text spell, each of them once and where it is spelled first. -/
structure AreListedIn (text : String) (roles : List Role) : Prop where
  mem_iff : ∀ role, role ∈ roles ↔
    ∃ segment ∈ Text.segments ',' text.toList, role.IsSpelledBy segment
  ordered : roles.Pairwise fun earlier later =>
    firstSpelling (Text.segments ',' text.toList) earlier <
      firstSpelling (Text.segments ',' text.toList) later

theorem AreListedIn.nodup {text : String} {roles : List Role} (h : AreListedIn text roles) :
    roles.Nodup := by
  refine h.ordered.imp fun hlt heq => ?_
  rw [heq] at hlt
  exact Nat.lt_irrefl _ hlt

theorem mem_readList_iff {text : String} {role : Role} :
    role ∈ readList text ↔
      ∃ segment ∈ Text.segments ',' text.toList, role.IsSpelledBy segment := by
  rw [readList_eq, mem_distinct, mem_spelled_iff]

theorem areListedIn_readList (text : String) : AreListedIn text (readList text) where
  mem_iff _ := mem_readList_iff
  ordered := readList_eq text ▸ pairwise_distinct_spelled _

theorem areListedIn_iff {text : String} {roles : List Role} :
    AreListedIn text roles ↔ roles = readList text := by
  constructor
  · intro h
    have hread := areListedIn_readList text
    have hperm : roles.Perm (readList text) :=
      (List.perm_ext_iff_of_nodup h.nodup hread.nodup).2 fun role =>
        (h.mem_iff role).trans (hread.mem_iff role).symm
    exact hperm.eq_of_pairwise
      (fun _ _ _ _ hlt hgt => absurd hgt (Nat.lt_asymm hlt)) h.ordered hread.ordered
  · rintro rfl
    exact areListedIn_readList text

end Role

namespace Identity

/-! ## Identities -/

/-- A role is spelled in the first list of roles. -/
def StatesRole (headers : Http.Headers) : Prop :=
  ∃ (text : String) (role : Role), headers.Reads IdentityHeaders.userRole text ∧
    ∃ segment ∈ Text.segments ',' text.toList, role.IsSpelledBy segment

/-- The headers state this identity: its user id, its roles, and its e-mail address if the first one
can be read. -/
structure IsStatedIn (identity : Identity) (headers : Http.Headers) : Prop where
  userId : ∃ number, StatesUserId headers number ∧ identity.userId.toInt = number
  roles : ∃ text, headers.Reads IdentityHeaders.userRole text ∧
    Role.AreListedIn text identity.roles
  email : headers.Reads IdentityHeaders.userEmail identity.email ∨
    (∀ text, ¬ headers.Reads IdentityHeaders.userEmail text) ∧ identity.email = ""

/-- The roles that are read. -/
def statedRoles (headers : Http.Headers) : List Role :=
  Role.readList ((headers.getText? IdentityHeaders.userRole).getD "")

/-- The e-mail address that is read. -/
def statedEmail (headers : Http.Headers) : String :=
  (headers.getText? IdentityHeaders.userEmail).getD ""

variable {zone : TrustZone} {peer : Option Address} {headers : Http.Headers} {identity : Identity}

theorem reconstruct_eq_some_iff_exists :
    reconstruct zone peer headers = some identity ↔
      zone.admits peer = true ∧ ∃ id,
        (headers.get? IdentityHeaders.userId).bind userIdOf? = some id ∧
          (create id (statedRoles headers) (statedEmail headers)).toOption = some identity := by
  unfold reconstruct
  cases headers.get? IdentityHeaders.userId with
  | none => exact iff_of_false nofun (by rintro ⟨-, _, ⟨⟩, -⟩)
  | some stated =>
      by_cases hadmits : zone.admits peer = true
      · have hguard : (guard (zone.admits peer = true) : Option Unit) = some () := if_pos hadmits
        rw [hguard]
        simp [hadmits, Option.bind_eq_some_iff, statedRoles, statedEmail]
      · have hguard : (guard (zone.admits peer = true) : Option Unit) = none := if_neg hadmits
        rw [hguard]
        simp [hadmits]

theorem statedRoles_ne_nil_iff : statedRoles headers ≠ [] ↔ StatesRole headers := by
  constructor
  · intro hne
    obtain ⟨role, hrole⟩ := List.exists_mem_of_ne_nil _ hne
    unfold statedRoles at hrole
    cases htext : headers.getText? IdentityHeaders.userRole with
    | none =>
        rw [htext, Option.getD_none, Role.readList_empty] at hrole
        cases hrole
    | some text =>
        rw [htext, Option.getD_some] at hrole
        exact ⟨text, role, Http.Headers.getText?_eq_some_iff.1 htext, Role.mem_readList_iff.1 hrole⟩
  · rintro ⟨text, role, htext, hspelled⟩
    rw [statedRoles, Http.Headers.getText?_eq_some_iff.2 htext, Option.getD_some]
    exact List.ne_nil_of_mem (Role.mem_readList_iff.2 hspelled)

/-- Where a role is stated, the roles that are read are those which are listed. -/
theorem eq_statedRoles_iff {roles : List Role} (hne : roles ≠ []) :
    roles = statedRoles headers ↔
      ∃ text, headers.Reads IdentityHeaders.userRole text ∧ Role.AreListedIn text roles := by
  simp only [Role.areListedIn_iff, ← Http.Headers.getText?_eq_some_iff]
  unfold statedRoles
  cases headers.getText? IdentityHeaders.userRole with
  | none => simp [hne]
  | some text => simp

theorem eq_statedEmail_iff {email : String} :
    email = statedEmail headers ↔ headers.Reads IdentityHeaders.userEmail email ∨
      (∀ text, ¬ headers.Reads IdentityHeaders.userEmail text) ∧ email = "" := by
  simp only [← Http.Headers.getText?_eq_some_iff]
  unfold statedEmail
  cases headers.getText? IdentityHeaders.userEmail with
  | none => simp
  | some text => simp [eq_comm]

theorem reconstruct_eq_some_iff :
    reconstruct zone peer headers = some identity ↔
      zone.admits peer = true ∧ identity.IsStatedIn headers := by
  rw [reconstruct_eq_some_iff_exists]
  refine and_congr_right fun _ => ?_
  constructor
  · rintro ⟨id, hid, hcreate⟩
    obtain ⟨number, hstates, hnumber⟩ := userIdOf?_eq_some_iff.1 hid
    obtain ⟨-, rfl, hroles, hemail⟩ := (create_eq_some_iff (hstates.pos hnumber)).1 hcreate
    rw [statedRoles, Role.distinct_readList] at hroles
    exact ⟨⟨number, hstates, hnumber⟩, (eq_statedRoles_iff identity.roles_ne_nil).1 hroles,
      eq_statedEmail_iff.1 hemail⟩
  · rintro ⟨huserId, hroles, hemail⟩
    have hroles := (eq_statedRoles_iff identity.roles_ne_nil).2 hroles
    refine ⟨identity.userId, userIdOf?_eq_some_iff.2 huserId,
      (create_eq_some_iff identity.userId_pos).2
        ⟨hroles ▸ identity.roles_ne_nil, rfl, ?_, eq_statedEmail_iff.2 hemail⟩⟩
    rw [statedRoles, Role.distinct_readList]
    exact hroles

theorem exists_reconstruct_iff :
    (∃ identity, reconstruct zone peer headers = some identity) ↔
      zone.admits peer = true ∧ (∃ number, StatesUserId headers number) ∧ StatesRole headers := by
  constructor
  · rintro ⟨identity, hread⟩
    obtain ⟨hadmits, hstated⟩ := reconstruct_eq_some_iff.1 hread
    obtain ⟨number, hstates, -⟩ := hstated.userId
    obtain ⟨text, htext, hlisted⟩ := hstated.roles
    obtain ⟨role, hrole⟩ := List.exists_mem_of_ne_nil _ identity.roles_ne_nil
    exact ⟨hadmits, ⟨number, hstates⟩, text, role, htext, (hlisted.mem_iff role).1 hrole⟩
  · rintro ⟨hadmits, ⟨number, hstates⟩, hrole⟩
    obtain ⟨id, hid⟩ := hstates.exists_word
    have hne := statedRoles_ne_nil_iff.2 hrole
    let identity : Identity :=
      { userId := id, roles := statedRoles headers, email := statedEmail headers
        userId_pos := hstates.pos hid
        roles_ne_nil := hne
        roles_nodup := Role.nodup_distinct _ }
    exact ⟨identity, reconstruct_eq_some_iff.2 ⟨hadmits, ⟨number, hstates, hid⟩,
      (eq_statedRoles_iff hne).1 rfl, eq_statedEmail_iff.1 rfl⟩⟩

/-- Only the first values of the three headers are looked at. -/
theorem reconstruct_congr {other : Http.Headers}
    (h : ∀ name ∈ IdentityHeaders.names,
      (headers.getAll name).head? = (other.getAll name).head?) :
    reconstruct zone peer headers = reconstruct zone peer other := by
  have hfirst : ∀ name ∈ IdentityHeaders.names, headers.get? name = other.get? name := by
    intro name hname
    rw [← Http.Headers.head?_getAll, ← Http.Headers.head?_getAll, h name hname]
  unfold reconstruct Http.Headers.getText?
  rw [hfirst IdentityHeaders.userId (by decide), hfirst IdentityHeaders.userRole (by decide),
    hfirst IdentityHeaders.userEmail (by decide)]

/-- An identity is read exactly where an admitted peer states a user id and a role, it is the one
that the headers state, and it depends on the first values of the three headers alone. -/
theorem identity_is_read_exactly_as_stated :
    (∀ (zone : TrustZone) (peer : Option Address) (headers : Http.Headers),
      (∃ identity, reconstruct zone peer headers = some identity) ↔
        zone.admits peer = true ∧ (∃ number, StatesUserId headers number) ∧ StatesRole headers) ∧
    (∀ (zone : TrustZone) (peer : Option Address) (headers : Http.Headers) (identity : Identity),
      reconstruct zone peer headers = some identity ↔
        zone.admits peer = true ∧ identity.IsStatedIn headers) ∧
    ∀ headers other : Http.Headers,
      (∀ name ∈ IdentityHeaders.names,
        (headers.getAll name).head? = (other.getAll name).head?) →
      ∀ (zone : TrustZone) (peer : Option Address),
        reconstruct zone peer headers = reconstruct zone peer other := by
  refine ⟨?_, ?_, ?_⟩
  · intro zone peer headers
    exact exists_reconstruct_iff
  · intro zone peer headers identity
    exact reconstruct_eq_some_iff
  · intro headers other h zone peer
    exact reconstruct_congr h

/-- A padded user id, a list with a stranger and an owner in two spellings, and an e-mail address
that cannot be read; in front of it and behind it stands what is not looked at. -/
theorem owner_is_read_as_stated :
    let roles := "guest,role_owner,, Customer,RESTAURANT_OWNER"
    let first : List (String × List UInt8) :=
      [("X-User-Id", Text.utf8 " +0042\t"), ("X-User-Role", Text.utf8 roles),
        ("X-User-Email", [0x6a, 0xf6])]
    let headers : Http.Headers := .ofList first
    let other : Http.Headers := .ofList <| ("Accept", Text.utf8 "*/*") :: first ++
      [("x-user-id", Text.utf8 "7"), ("x-user-role", Text.utf8 "ADMIN"),
        ("x-user-email", Text.utf8 "a@example.org")]
    let peer : Option Address := some (.v4 ⟨10, 0, 0, 7⟩)
    let identity : Identity :=
      { userId := 42, roles := [.owner, .customer], email := ""
        userId_pos := by decide, roles_ne_nil := by decide, roles_nodup := by decide }
    (∀ name ∈ IdentityHeaders.names,
      (headers.getAll name).head? = (other.getAll name).head?) ∧
    reconstruct .privateNetwork peer headers = some identity ∧
      reconstruct .privateNetwork peer other = some identity := by
  intro roles first headers other peer identity
  obtain ⟨-, hexact, hfirst⟩ := identity_is_read_exactly_as_stated
  have hagree : ∀ name ∈ IdentityHeaders.names,
      (headers.getAll name).head? = (other.getAll name).head? := by
    decide +kernel
  have hnumeral : Text.IsNumeral "+0042" 42 :=
    ⟨['0', '0', '4', '2'], Or.inr (by decide), by decide, by simp, by decide⟩
  have hid : IsIdText " +0042\t" 42 :=
    ⟨" ", "+0042", "\t", by decide, by simp, hnumeral, by decide⟩
  have hread : reconstruct .privateNetwork peer headers = some identity := by
    refine (hexact .privateNetwork peer headers identity).2 ⟨by decide, ?_, ?_, Or.inr ⟨?_, rfl⟩⟩
    · exact ⟨42, ⟨_, ⟨by decide +kernel, by decide⟩, hid⟩, by decide⟩
    · exact ⟨roles, ⟨by decide +kernel, by decide⟩, Role.areListedIn_iff.2 (by decide +kernel)⟩
    · have hnone : headers.getText? IdentityHeaders.userEmail = none := by decide +kernel
      simp [← Http.Headers.getText?_eq_some_iff, hnone]
  refine ⟨hagree, hread, ?_⟩
  rw [← hfirst headers other hagree]
  exact hread

end Identity

end FoodOrdering
