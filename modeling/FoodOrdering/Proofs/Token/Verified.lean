import FoodOrdering.Proofs.Token.Payload

/-!
# What verification vouches for

Claims are believed only if the signature of the token was made with the secret over all that stands
in front of its last point.  Nothing of the payload is looked at before that is known, and nothing
depends on the clock but whether the end of validity has come.
-/

namespace FoodOrdering

namespace Claims

variable {claims : Claims}

theorem validate_eq_ok_iff :
    claims.validate = .ok () ↔ (∃ id, claims.HasSubject id) ∧ claims.iat ≤ claims.exp := by
  unfold validate
  rw [bind_eq_ok_iff]
  constructor
  · rintro ⟨id, hid, horder⟩
    refine ⟨⟨id, userId_eq_ok_iff.1 hid⟩, Int64.not_lt.1 fun hlt => ?_⟩
    rw [if_pos hlt] at horder
    cases horder
  · rintro ⟨⟨id, hid⟩, horder⟩
    exact ⟨id, userId_eq_ok_iff.2 hid, if_neg (Int64.not_lt.2 horder)⟩

end Claims

namespace Token

variable {secret : List UInt8} {now : Int64} {token : String} {claims : Claims} {parts : Parts}

/-- The header names the algorithm in use. -/
def Parts.DeclaresHs256 (parts : Parts) : Prop :=
  ∃ bytes, Base64Url.decode parts.header = some bytes ∧ Json.read headerReader bytes = .ok .hs256

/-- The signature is the keyed digest of the header and the payload with the point between them. -/
def Parts.IsSigned (secret : List UInt8) (parts : Parts) : Prop :=
  Base64Url.decode parts.signature =
    some (hmacSha256 secret (Text.utf8 (String.ofList parts.message)))

/-- The payload states these claims. -/
def Parts.States (parts : Parts) (claims : Claims) : Prop :=
  ∃ bytes, Base64Url.decode parts.payload = some bytes ∧ Claims.ofPayload bytes = .ok claims

/-- The claims of a token in these parts may be believed until they end. -/
structure Parts.VouchFor (secret : List UInt8) (parts : Parts) (claims : Claims) : Prop where
  declared : parts.DeclaresHs256
  signed : parts.IsSigned secret
  stated : parts.States claims
  subject : ∃ id, claims.HasSubject id
  end_nonneg : 0 ≤ claims.exp
  issue_le_end : claims.iat ≤ claims.exp

theorem decodePart_eq_ok_iff {text : List Char} {bytes : List UInt8} :
    decodePart text = .ok bytes ↔ Base64Url.decode text = some bytes := by
  unfold decodePart
  cases Base64Url.decode text with
  | none => simp
  | some other => simp

theorem orFault_eq_ok_iff {α ε : Type} {fault : TokenFault} {result : Except ε α} {value : α} :
    orFault fault result = .ok value ↔ result = .ok value := by
  cases result with
  | error other => simp [orFault]
  | ok other => simp [orFault]

/-- What is asked of a token before the clock is. -/
theorem exists_of_open?_eq_ok (h : open? secret token = .ok claims) :
    ∃ parts : Parts, parts.CutFrom token ∧ parts.DeclaresHs256 ∧ parts.IsSigned secret ∧
      parts.States claims ∧ 0 ≤ claims.exp := by
  unfold open? at h
  split at h
  next => cases h
  next parts hparts =>
    obtain ⟨header, hheader, h⟩ := bind_eq_ok_iff.1 h
    obtain ⟨algorithm, halgorithm, h⟩ := bind_eq_ok_iff.1 h
    split at h
    next => cases h
    next hdeclared =>
      obtain ⟨given, hgiven, h⟩ := bind_eq_ok_iff.1 h
      split at h
      next => cases h
      next hsigned =>
        obtain ⟨payload, hpayload, h⟩ := bind_eq_ok_iff.1 h
        obtain ⟨read, hread, h⟩ := bind_eq_ok_iff.1 h
        obtain ⟨general, hgeneral, h⟩ := bind_eq_ok_iff.1 h
        split at h
        next => cases h
        next hexpiry =>
          split at h
          next => cases h
          next =>
            cases h
            rw [not_not] at hdeclared hsigned
            rw [hdeclared] at halgorithm
            rw [hsigned] at hgiven
            rw [orFault_eq_ok_iff] at halgorithm hread hgeneral
            rw [decodePart_eq_ok_iff] at hheader hgiven hpayload
            rw [Option.isNone_iff_eq_none, ← ne_eq, ← Option.isSome_iff_ne_none] at hexpiry
            exact ⟨parts, Parts.ofText?_eq_some_iff.1 hparts, ⟨header, hheader, halgorithm⟩, hgiven,
              ⟨payload, hpayload, hread⟩,
              Int64.le_iff_toInt_le.2 (nonneg_of_registered hread hgeneral hexpiry)⟩

/-- The answer to a token whose signature was made over something else: the parts around its payload
decide which. -/
def refusal (header signature : List Char) : Except TokenError Claims := do
  let algorithm ← orFault .json (Json.read headerReader (← decodePart header))
  if algorithm ≠ .hs256 then .error (.malformed .algorithm)
  else
    let _ ← decodePart signature
    .error .invalidSignature

theorem exists_refusal_eq (header signature : List Char) :
    ∃ error, refusal header signature = .error error := by
  cases hrefusal : refusal header signature with
  | error error => exact ⟨error, rfl⟩
  | ok claims =>
      obtain ⟨_, _, h⟩ := bind_eq_ok_iff.1 hrefusal
      obtain ⟨_, _, h⟩ := bind_eq_ok_iff.1 h
      split at h
      next => cases h
      next =>
        obtain ⟨_, _, h⟩ := bind_eq_ok_iff.1 h
        cases h

theorem open?_of_not_signed (hcut : parts.CutFrom token) (h : ¬ parts.IsSigned secret) :
    open? secret token = refusal parts.header parts.signature := by
  unfold open? refusal
  rw [Parts.ofText?_eq_some_iff.2 hcut]
  dsimp only
  congr 1
  funext header
  congr 1
  funext algorithm
  split
  next => rfl
  next =>
    cases hgiven : decodePart parts.signature with
    | error error => rfl
    | ok given =>
        have hne : given ≠ signature secret parts.message := by
          rintro rfl
          exact h (decodePart_eq_ok_iff.1 hgiven)
        rw [ok_bind, ok_bind, if_pos hne]

theorem verify_eq_ok_iff : verify secret now token = .ok claims ↔
    open? secret token = .ok claims ∧ now < claims.exp ∧ claims.validate = .ok () := by
  unfold verify
  rw [bind_eq_ok_iff]
  constructor
  · rintro ⟨read, hopen, hread⟩
    split at hread
    next => cases hread
    next hlate =>
      obtain ⟨_, hvalid, hsame⟩ := bind_eq_ok_iff.1 hread
      cases hsame
      exact ⟨hopen, Int64.not_le.1 hlate, hvalid⟩
  · rintro ⟨hopen, hnow, hvalid⟩
    refine ⟨claims, hopen, ?_⟩
    rw [if_neg (Int64.not_le.2 hnow), hvalid]
    rfl

/-- No content that is not signed is believed: what verification accepts is vouched for, what it
refuses for its signature it refuses alike whatever the payload and the clock are, and the clock
decides about the rest by the end of validity alone. -/
theorem only_signed_claims_are_believed (secret : List UInt8) :
    (∀ token now claims, verify secret now token = .ok claims →
      (∃ parts : Parts, parts.CutFrom token ∧ parts.VouchFor secret claims) ∧ now < claims.exp) ∧
    (∀ (first second : Parts) (token other : String) (now later : Int64),
      first.CutFrom token → second.CutFrom other → first.header = second.header →
      first.signature = second.signature → ¬ first.IsSigned secret → ¬ second.IsSigned secret →
        ∃ error, verify secret now token = .error error ∧ verify secret later other = .error error) ∧
    ∀ token, (∀ now claims, verify secret now token ≠ .ok claims) ∨
      ∃ claims, ∀ now read, verify secret now token = .ok read ↔ now < claims.exp ∧ read = claims := by
  refine ⟨?_, ?_, ?_⟩
  · intro token now claims h
    obtain ⟨hopen, hnow, hvalid⟩ := verify_eq_ok_iff.1 h
    obtain ⟨parts, hcut, hdeclared, hsigned, hstated, hnonneg⟩ := exists_of_open?_eq_ok hopen
    obtain ⟨hsubject, horder⟩ := Claims.validate_eq_ok_iff.1 hvalid
    exact ⟨⟨parts, hcut, hdeclared, hsigned, hstated, hsubject, hnonneg, horder⟩, hnow⟩
  · intro first second token other now later hfirst hsecond hheader hsignature hunsigned hforged
    obtain ⟨error, herror⟩ := exists_refusal_eq first.header first.signature
    have htoken := (open?_of_not_signed hfirst hunsigned).trans herror
    rw [hheader, hsignature] at herror
    have hother := (open?_of_not_signed hsecond hforged).trans herror
    refine ⟨error, ?_, ?_⟩
    · rw [verify, htoken, error_bind]
    · rw [verify, hother, error_bind]
  · intro token
    by_cases h : ∃ claims, open? secret token = .ok claims ∧ claims.validate = .ok ()
    · obtain ⟨claims, hopen, hvalid⟩ := h
      refine .inr ⟨claims, fun now read => ?_⟩
      rw [verify_eq_ok_iff, hopen]
      constructor
      · rintro ⟨⟨rfl⟩, hnow, _⟩
        exact ⟨hnow, rfl⟩
      · rintro ⟨hnow, rfl⟩
        exact ⟨rfl, hnow, hvalid⟩
    · refine .inl fun now claims hverify => h ⟨claims, ?_⟩
      obtain ⟨hopen, _, hvalid⟩ := verify_eq_ok_iff.1 hverify
      exact ⟨hopen, hvalid⟩

end Token

/-! ## A token of an owner

The token is believed for a minute.  With other claims in it, and with a signature that was made up,
it is refused. -/

namespace Token.Forgery

def secret : List UInt8 := [0x73, 0x33, 0x63, 0x72, 0x65, 0x74]

def owner : Claims :=
  { sub := "7", role := "OWNER", email := "", iat := 1000, exp := 1060 }

def administrator : Claims :=
  { owner with role := "ADMIN" }

/-- One byte stands for the signature. -/
def parts (claims : Claims) : Parts :=
  { header := part header, payload := part claims.toJson, signature := ['A', 'A'] }

def token (claims : Claims) : String :=
  String.ofList ((parts claims).message ++ '.' :: (parts claims).signature)

theorem cutFrom_token (claims : Claims) : (parts claims).CutFrom (token claims) where
  text := String.toList_ofList
  payload := Base64Url.point_notMem_encode _
  signature := by
    show '.' ∉ ['A', 'A']
    decide

theorem length_hmacSha256 (key message : List UInt8) : (hmacSha256 key message).length = 32 :=
  rfl

theorem not_isSigned (claims : Claims) : ¬ (parts claims).IsSigned secret := by
  intro h
  have hlength := congrArg (Option.map List.length) h
  rw [Option.map_some, length_hmacSha256] at hlength
  have hone : (Base64Url.decode (parts claims).signature).map List.length = some 1 := rfl
  rw [hone] at hlength
  cases hlength

theorem verify_sign_owner : verify secret 1030 (sign secret owner) = .ok owner := by
  rw [verify_eq_ok_iff, open?_sign, if_neg (by decide)]
  refine ⟨rfl, by decide, Claims.validate_eq_ok_iff.2 ⟨⟨7, ?_⟩, by decide⟩⟩
  decide +kernel

/-- The owner is believed until the end, and the forgeries are refused alike. -/
theorem owner_is_believed_and_forgeries_are_not :
    (∀ now, verify secret now (sign secret owner) = .ok owner ↔ now < 1060) ∧
    (∃ parts : Parts, parts.CutFrom (sign secret owner) ∧ parts.VouchFor secret owner) ∧
    ∃ error, verify secret 1030 (token owner) = .error error ∧
      verify secret 2000 (token administrator) = .error error := by
  obtain ⟨hbelieved, hrefused, hclock⟩ := only_signed_claims_are_believed secret
  refine ⟨?_, (hbelieved _ _ _ verify_sign_owner).1, ?_⟩
  · rcases hclock (sign secret owner) with hnever | ⟨claims, hclaims⟩
    · exact absurd verify_sign_owner (hnever 1030 owner)
    · obtain ⟨_, rfl⟩ := (hclaims 1030 owner).1 verify_sign_owner
      exact fun now => (hclaims now owner).trans (and_iff_left rfl)
  · exact hrefused (parts owner) (parts administrator) (token owner) (token administrator) 1030 2000
      (cutFrom_token owner) (cutFrom_token administrator) rfl rfl (not_isSigned owner)
      (not_isSigned administrator)

end Token.Forgery

end FoodOrdering
