import FoodOrdering.Identity.Reconstruct
import FoodOrdering.Proofs.Identity.Minting
import FoodOrdering.Proofs.Identity.Roles
import FoodOrdering.Proofs.Text.Blank

/-!
# From claims to an identity

The edge writes an identity into headers and a service reads it back.  What arrives is what was
sent: the same user, no role that the claims do not name, and the same e-mail address where the
headers can carry it.
-/

namespace FoodOrdering

namespace Identity

/-- The identity that is created from a positive id, if there is a role at all. -/
theorem create_eq_some_iff {userId : Int64} {roles : List Role} {email : String}
    {identity : Identity} (hpos : 0 < userId) :
    (create userId roles email).toOption = some identity ↔
      roles ≠ [] ∧ identity.userId = userId ∧ identity.roles = Role.distinct roles ∧
        identity.email = email := by
  rw [create, dif_pos hpos]
  by_cases hroles : roles = []
  · rw [dif_pos hroles]
    constructor
    · intro h
      cases h
    · intro h
      exact absurd hroles h.1
  · rw [dif_neg hroles]
    constructor
    · intro h
      cases h
      exact ⟨hroles, rfl, rfl, rfl⟩
    · rintro ⟨_, rfl, hdistinct, rfl⟩
      cases identity
      cases hdistinct
      rfl

theorem create_eq_none {userId : Int64} {email : String} :
    (create userId [] email).toOption = none := by
  unfold create
  split
  · rfl
  · rfl

theorem isPlain_ofInt64 (value : Int64) : Http.IsPlain (Text.ofInt64 value) := by
  intro c hc
  unfold Text.ofInt64 at hc
  rw [String.toList_ofList] at hc
  have hrange := Text.range_of_mem_writeInt hc
  left
  omega

theorem userIdOf?_ofInt64 {id : Int64} (hpos : 0 < id) :
    userIdOf? (Text.utf8 (Text.ofInt64 id)) = some id := by
  rw [userIdOf?, Http.textOf?_utf8_eq_some_iff.2 ⟨rfl, isPlain_ofInt64 id⟩, Option.bind_eq_bind,
    Option.bind_some, Text.trim_ofInt64, Text.readInt64?_ofInt64, Option.filter_some,
    if_pos (decide_eq_true hpos)]

/-- What a claim has become once it was written into a value and read from it. -/
def delivered (claim : String) : String :=
  (Http.textOf? (IdentityHeaders.claimValue claim)).getD ""

theorem delivered_of_isPlain {claim : String} (h : Http.IsPlain claim) :
    delivered claim = claim := by
  rw [delivered, IdentityHeaders.claimValue_of_isPlain h, Http.textOf?_utf8_eq_some_iff.2 ⟨rfl, h⟩]
  rfl

theorem delivered_of_not_isPlain {claim : String} (h : ¬ Http.IsPlain claim) :
    delivered claim = "" := by
  unfold delivered
  cases hread : Http.textOf? (IdentityHeaders.claimValue claim) with
  | none => rfl
  | some read =>
      rcases IdentityHeaders.textOf?_claimValue hread with ⟨-, hplain⟩ | rfl
      · exact absurd hplain h
      · rfl

/-- A claim is delivered whole or not at all. -/
theorem delivered_eq_or (claim : String) : delivered claim = claim ∨ delivered claim = "" := by
  by_cases h : Http.IsPlain claim
  · exact Or.inl (delivered_of_isPlain h)
  · exact Or.inr (delivered_of_not_isPlain h)

/-- The roles that a service reads in headers minted from claims. -/
def deliveredRoles (claims : Claims) : List Role :=
  Role.readList (delivered (IdentityHeaders.forwardedRole claims))

theorem deliveredRoles_of_blank {claims : Claims} (h : Text.isBlankText claims.role = true) :
    deliveredRoles claims = [.user] := by
  have hforwarded : IdentityHeaders.forwardedRole claims = "USER" := if_pos h
  rw [deliveredRoles, hforwarded, delivered_of_isPlain (by decide)]
  decide

theorem deliveredRoles_of_isPlain {claims : Claims} (h : Text.isBlankText claims.role = false)
    (hplain : Http.IsPlain claims.role) : deliveredRoles claims = Role.readList claims.role := by
  have hforwarded : IdentityHeaders.forwardedRole claims = claims.role := by
    rw [IdentityHeaders.forwardedRole, h]
    rfl
  rw [deliveredRoles, hforwarded, delivered_of_isPlain hplain]

/-- No role arrives that the claims do not name. -/
theorem mem_readList_of_mem_deliveredRoles {claims : Claims} {role : Role}
    (h : Text.isBlankText claims.role = false) (hrole : role ∈ deliveredRoles claims) :
    role ∈ Role.readList claims.role := by
  have hforwarded : IdentityHeaders.forwardedRole claims = claims.role := by
    rw [IdentityHeaders.forwardedRole, h]
    rfl
  unfold deliveredRoles at hrole
  rw [hforwarded] at hrole
  rcases delivered_eq_or claims.role with hwhole | hempty
  · rwa [hwhole] at hrole
  · rw [hempty, Role.readList_empty] at hrole
    cases hrole

/-- What a service reads in minted headers. -/
theorem reconstruct_minted {claims : Claims} {id : Int64} {headers : Http.Headers}
    {zone : TrustZone} {peer : Option Address} (hadmits : zone.admits peer = true)
    (hpos : 0 < id) :
    reconstruct zone peer (IdentityHeaders.minted claims id headers) =
      (create id (deliveredRoles claims) (delivered claims.email)).toOption := by
  have hguard : (guard (zone.admits peer = true) : Option Unit) = some () := if_pos hadmits
  unfold reconstruct Http.Headers.getText?
  rw [IdentityHeaders.get?_userId_minted, IdentityHeaders.get?_userRole_minted,
    IdentityHeaders.get?_userEmail_minted, hguard]
  simp only [Option.bind_eq_bind, Option.bind_some, userIdOf?_ofInt64 hpos]
  rfl

/-- What is read of claims with this id behind the hop is the identity that they state: the same
user, the roles that the role claim names, and the e-mail address. -/
structure IsStatedBy (claims : Claims) (id : Int64) (read : Option Identity) : Prop where
  userId_eq : ∀ identity, read = some identity → identity.userId = id
  roles_le : ∀ identity, read = some identity → ∀ role ∈ identity.roles,
    role ∈ Role.readList claims.role ∨ (role = .user ∧ Text.isBlankText claims.role = true)
  of_blank : Text.isBlankText claims.role = true →
    ∃ identity, read = some identity ∧ identity.roles = [.user]
  of_roles : Text.isBlankText claims.role = false → Http.IsPlain claims.role →
    Role.readList claims.role ≠ [] →
      ∃ identity, read = some identity ∧ identity.roles = Role.readList claims.role
  of_no_role : Text.isBlankText claims.role = false → Http.IsPlain claims.role →
    Role.readList claims.role = [] → read = none
  email_eq : Http.IsPlain claims.email →
    ∀ identity, read = some identity → identity.email = claims.email

/-- An identity is there as soon as a role is delivered, and has the delivered roles. -/
theorem exists_of_deliveredRoles (claims : Claims) {id : Int64} (hpos : 0 < id)
    (hroles : deliveredRoles claims ≠ []) :
    ∃ identity,
      (create id (deliveredRoles claims) (delivered claims.email)).toOption = some identity ∧
        identity.roles = deliveredRoles claims := by
  have hdistinct : Role.distinct (deliveredRoles claims) = deliveredRoles claims := by
    rw [deliveredRoles, Role.distinct_readList]
  rw [create, dif_pos hpos, dif_neg hroles]
  refine ⟨_, rfl, ?_⟩
  dsimp only
  rw [hdistinct]

theorem isStatedBy_reconstruct {claims : Claims} {id : Int64} {headers : Http.Headers}
    {zone : TrustZone} {peer : Option Address} (hadmits : zone.admits peer = true)
    (hpos : 0 < id) :
    IsStatedBy claims id (reconstruct zone peer (IdentityHeaders.minted claims id headers)) := by
  rw [reconstruct_minted hadmits hpos]
  refine ⟨?_, ?_, ?_, ?_, ?_, ?_⟩
  · intro identity hread
    exact ((create_eq_some_iff hpos).1 hread).2.1
  · intro identity hread role hrole
    rw [((create_eq_some_iff hpos).1 hread).2.2.1, Role.mem_distinct] at hrole
    cases hblank : Text.isBlankText claims.role with
    | true =>
        rw [deliveredRoles_of_blank hblank, List.mem_singleton] at hrole
        exact Or.inr ⟨hrole, rfl⟩
    | false => exact Or.inl (mem_readList_of_mem_deliveredRoles hblank hrole)
  · intro hblank
    have hdelivered := deliveredRoles_of_blank hblank
    obtain ⟨identity, hread, hroles⟩ := exists_of_deliveredRoles claims hpos
      (by rw [hdelivered]; exact List.cons_ne_nil _ _)
    exact ⟨identity, hread, hroles.trans hdelivered⟩
  · intro hblank hplain hnames
    have hdelivered := deliveredRoles_of_isPlain hblank hplain
    obtain ⟨identity, hread, hroles⟩ := exists_of_deliveredRoles claims hpos
      (by rwa [hdelivered])
    exact ⟨identity, hread, hroles.trans hdelivered⟩
  · intro hblank hplain hnone
    rw [deliveredRoles_of_isPlain hblank hplain, hnone]
    exact create_eq_none
  · intro hplain identity hread
    rw [((create_eq_some_iff hpos).1 hread).2.2.2, delivered_of_isPlain hplain]

end Identity

namespace IdentityHeaders

/-- The headers that are there once it was tried to write claims into them. -/
def afterMint (claims : Claims) (headers : Http.Headers) : Http.Headers :=
  match (write claims).run headers with
  | .ok _ left | .error _ left => left

/-- An identity survives the hop and never grows: with a subject that is a positive id the headers
are minted, and an admitted service reads the identity that the claims state, whatever stood in the
headers before; without one nothing is written. -/
theorem identity_survives_hop (claims : Claims) (headers : Http.Headers) (zone : TrustZone)
    (peer : Option Address) (hadmits : zone.admits peer = true) :
    (∀ id, claims.HasSubject id → ∃ written, mint claims headers = .ok written ∧
        afterMint claims headers = written ∧
        Identity.IsStatedBy claims id (Identity.reconstruct zone peer written)) ∧
      ((∀ id, ¬ claims.HasSubject id) →
        mint claims headers = .error (.malformed .subject) ∧
          afterMint claims headers = headers) := by
  constructor
  · intro id hsubject
    refine ⟨minted claims id headers, mint_of_hasSubject headers hsubject, ?_, ?_⟩
    · rw [afterMint, write_of_hasSubject headers hsubject]
    · exact Identity.isStatedBy_reconstruct hadmits hsubject.2
  · intro hnone
    refine ⟨mint_of_no_subject headers hnone, ?_⟩
    rw [afterMint, write_of_no_subject headers hnone]

/-- An owner in two spellings behind a private peer, with a forged administrator in the headers. -/
theorem owner_survives_hop :
    let claims : Claims :=
      { sub := "+42", role := "role_owner, customer,RESTAURANT_OWNER", email := "o@example.org"
        iat := 0, exp := 1 }
    let forged : Http.Headers :=
      .ofList [("X-User-Id", [0x31]), ("Accept", [0x2a]), ("X-USER-ROLE", Text.utf8 "ADMIN")]
    let peer : Option Address := some (.v4 ⟨10, 0, 0, 7⟩)
    TrustZone.privateNetwork.admits peer = true ∧ claims.HasSubject 42 ∧
      ∃ written, mint claims forged = .ok written ∧ afterMint claims forged = written ∧
        Identity.IsStatedBy claims 42 (Identity.reconstruct .privateNetwork peer written) := by
  intro claims forged peer
  have hsubject : claims.HasSubject 42 := by decide
  have hadmits : TrustZone.privateNetwork.admits peer = true := by decide
  exact ⟨hadmits, hsubject,
    (identity_survives_hop claims forged .privateNetwork peer hadmits).1 42 hsubject⟩

end IdentityHeaders

end FoodOrdering
