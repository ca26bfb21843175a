import FoodOrdering.Proofs.Except
import FoodOrdering.Proofs.Identity.Minting
import FoodOrdering.Proofs.Json.Written
import FoodOrdering.Proofs.Token.Base64Url
import FoodOrdering.Proofs.Token.Parts

/-!
# Signed tokens verified

A token that was made here is cut into the parts that it was made of, and its header and its claims
are read as they were written, so that verification answers for the claims and the clock alone.
-/

namespace FoodOrdering

open Json Reader Reading

namespace Claims

theorem takesAll_member (claims : Claims) :
    TakesAll member {}
      [("sub", .text claims.sub), ("role", .text claims.role), ("email", .text claims.email),
        ("iat", .integer claims.iat.toInt), ("exp", .integer claims.exp.toInt)]
      { sub := some claims.sub, role := some claims.role, email := some claims.email
        iat := some claims.iat, exp := some claims.exp } :=
  .cons (fun rest hrest => (gives_once (reads_text claims.sub) hrest).bind (gives_done _ rest)) <|
  .cons (fun rest hrest => (gives_once (reads_text claims.role) hrest).bind (gives_done _ rest)) <|
  .cons (fun rest hrest => (gives_once (reads_text claims.email) hrest).bind (gives_done _ rest)) <|
  .cons (fun rest hrest => (gives_once (reads_int64 claims.iat) hrest).bind (gives_done _ rest)) <|
  .cons (fun rest hrest => (gives_once (reads_int64 claims.exp) hrest).bind (gives_done _ rest)) <|
  .nil _

/-- Claims are read back from their JSON form. -/
theorem ofPayload_toJson (claims : Claims) :
    ofPayload (Text.utf8 claims.toJson.render) = .ok claims := by
  rw [utf8_render, ← List.append_nil (Text.charBytes claims.toJson.chars)]
  apply read_of_gives
  apply gives_record
  exact (gives_members claims.takesAll_member []).bind (gives_done _ _)

instance (claims : Claims) : Decidable (∃ id, claims.HasSubject id) :=
  match h : Text.readInt64? claims.sub with
  | none => isFalse (by
      rintro ⟨id, hread, _⟩
      rw [h] at hread
      cases hread)
  | some id =>
      if hpos : 0 < id then isTrue ⟨id, h, hpos⟩
      else isFalse (by
        rintro ⟨other, hread, hother⟩
        rw [h] at hread
        cases hread
        exact hpos hother)

end Claims

namespace Token

/-- The header that is written here names the algorithm in use. -/
theorem read_header : read headerReader (Text.utf8 header.render) = .ok .hs256 := by
  have halgorithm : Algorithm.ofName? "HS256" = some .hs256 := rfl
  have htakes : TakesAll headerMember {} [("typ", .text "JWT"), ("alg", .text "HS256")]
      { algorithm := some .hs256, seen := ["typ"] } :=
    .cons (fun rest hrest =>
      (gives_memberValue (reads_optional_text "JWT") hrest).bind (gives_done _ rest)) <|
    .cons (fun rest hrest =>
      (gives_once (reads_choice halgorithm) hrest).bind (gives_done _ rest)) <|
    .nil _
  rw [utf8_render, ← List.append_nil (Text.charBytes header.chars)]
  apply read_of_gives
  apply gives_record
  exact (gives_members htakes []).bind (gives_done _ _)

theorem reads_attempt {α : Type} {item : Reader α} {value : Json} {found : α}
    (h : Reads item value found) : Reads (attempt item) value (some found) :=
  fun rest hrest => (h rest hrest).attempt

/-- A whole number is a time unless it is negative. -/
theorem gives_time_of_integer {input rest left : List UInt8} {byte : UInt8} {value : Int}
    (hbegins : Begins input byte rest) (hstarts : startsNumber byte = true)
    (h : Gives (numeral byte) rest (.ok (.integer value)) left) :
    Gives time input (.ok (if 0 ≤ value then some value else none)) left := by
  have hnumeral : ∀ {result : Except Fault Int},
      Gives (if 0 ≤ value then done value else fail Fault.mismatch) left result left →
      Gives time input (.ok result.toOption) left := by
    intro result hlast
    refine Gives.attempt (hbegins.gives_peekToken.bind ?_)
    dsimp only
    rw [if_pos hstarts]
    exact (gives_next _ _).bind (h.bind hlast)
  by_cases hpositive : 0 ≤ value
  · rw [if_pos hpositive] at hnumeral ⊢
    exact hnumeral (gives_done value left)
  · rw [if_neg hpositive] at hnumeral ⊢
    exact hnumeral (gives_fail Fault.mismatch left)

theorem reads_time (word : Int64) :
    Reads time (.integer word.toInt) (if 0 ≤ word.toInt then some word.toInt else none) := by
  intro rest hrest
  obtain ⟨first, others, hbytes, hnumber⟩ := exists_isNumber word
  show Gives time (Text.charBytes (Text.writeInt word.toInt) ++ rest) _ _
  rw [hbytes]
  exact gives_time_of_integer (.self (isSpace_of_startsNumber hnumber.starts)) hnumber.starts
    (hnumber.gives_numeral hrest)

theorem takesAll_registeredMember (claims : Claims) :
    TakesAll registeredMember {}
      [("sub", .text claims.sub), ("role", .text claims.role), ("email", .text claims.email),
        ("iat", .integer claims.iat.toInt), ("exp", .integer claims.exp.toInt)]
      { expiry := if 0 ≤ claims.exp.toInt then some claims.exp.toInt else none
        seen := ["exp", "sub"] } :=
  .cons (fun rest hrest =>
    (gives_memberValue (reads_attempt (reads_optional_text claims.sub)) hrest).bind
      (gives_done _ rest)) <|
  .cons (fun rest hrest =>
    (gives_memberValue (reads_skipValue (.text claims.role)) hrest).bind (gives_done _ rest)) <|
  .cons (fun rest hrest =>
    (gives_memberValue (reads_skipValue (.text claims.email)) hrest).bind (gives_done _ rest)) <|
  .cons (fun rest hrest =>
    (gives_memberValue (reads_skipValue (.integer claims.iat.toInt)) hrest).bind
      (gives_done _ rest)) <|
  .cons (fun rest hrest =>
    (gives_memberValue (reads_time claims.exp) hrest).bind (gives_done _ rest)) <|
  .nil _

theorem registered_toJson (claims : Claims) :
    registered (Text.utf8 claims.toJson.render) =
      .ok { expiry := if 0 ≤ claims.exp.toInt then some claims.exp.toInt else none
            seen := ["exp", "sub"] } := by
  rw [utf8_render, ← List.append_nil (Text.charBytes claims.toJson.chars)]
  apply read_of_gives
  apply gives_record
  exact gives_members (takesAll_registeredMember claims) []

theorem cutFrom_sign (secret : List UInt8) (claims : Claims) :
    Parts.CutFrom
      { header := part header, payload := part claims.toJson
        signature := Base64Url.encode (signature secret (message claims)) }
      (sign secret claims) where
  text := String.toList_ofList
  payload := Base64Url.point_notMem_encode _
  signature := Base64Url.point_notMem_encode _

theorem decodePart_encode (bytes : List UInt8) :
    decodePart (Base64Url.encode bytes) = .ok bytes := by
  rw [decodePart, Base64Url.decode_encode]

/-- A token that was made here is opened, unless its end lies before all time. -/
theorem open?_sign (secret : List UInt8) (claims : Claims) :
    open? secret (sign secret claims) =
      if claims.exp < 0 then .error (.malformed .expiry) else .ok claims := by
  unfold open?
  rw [Parts.ofText?_eq_some_iff.2 (cutFrom_sign secret claims)]
  dsimp only [part, Parts.message]
  simp only [decodePart_encode, ok_bind, read_header, orFault, Claims.ofPayload_toJson,
    registered_toJson]
  have hsigned : ¬ signature secret (message claims) ≠ signature secret
      (Base64Url.encode (Text.utf8 header.render) ++
        '.' :: Base64Url.encode (Text.utf8 claims.toJson.render)) := not_not_intro rfl
  rw [if_neg (by decide), if_neg hsigned]
  have hexpiry : claims.exp < 0 ↔ ¬ 0 ≤ claims.exp.toInt := by
    rw [Int64.lt_iff_toInt_lt, Int.not_le]
    rfl
  by_cases h : 0 ≤ claims.exp.toInt
  · rw [if_pos h, if_neg fun hnegative => hexpiry.1 hnegative h]
    rfl
  · rw [if_neg h, if_pos (hexpiry.2 h)]
    rfl

/-- All claims can be signed, and verification of the token gives them back unchanged, or the first
of the reasons against them. -/
theorem verify_sign (secret : List UInt8) (claims : Claims) (now : Int64) :
    verify secret now (sign secret claims) =
      if claims.exp < 0 then .error (.malformed .expiry)
      else if claims.exp ≤ now then .error .expired
      else if ¬ ∃ id, claims.HasSubject id then .error (.malformed .subject)
      else if claims.exp < claims.iat then .error (.malformed .endsBeforeIssue)
      else .ok claims := by
  unfold verify
  rw [open?_sign]
  by_cases hexpiry : claims.exp < 0
  · rw [if_pos hexpiry, if_pos hexpiry]
    rfl
  rw [if_neg hexpiry, if_neg hexpiry, ok_bind]
  by_cases hexpired : claims.exp ≤ now
  · rw [if_pos hexpired, if_pos hexpired]
  rw [if_neg hexpired, if_neg hexpired]
  unfold Claims.validate
  by_cases hsubject : ∃ id, claims.HasSubject id
  · obtain ⟨id, hid⟩ := hsubject
    rw [if_neg (not_not_intro ⟨id, hid⟩), Claims.userId_eq_ok_iff.2 hid, ok_bind]
    by_cases horder : claims.exp < claims.iat
    · rw [if_pos horder, if_pos horder]
      rfl
    · rw [if_neg horder, if_neg horder]
      rfl
  · rw [if_pos hsubject, Claims.userId_of_no_subject (not_exists.1 hsubject)]
    rfl

end Token

end FoodOrdering
