import FoodOrdering.Http.Headers
import FoodOrdering.Identity.Headers
import FoodOrdering.Proofs.Http.Readable

/-!
# Minted headers

What stands in the headers once an identity has been written into them: the fields that were
there before under other names, and the three fields of the claims.
-/

namespace FoodOrdering

namespace Claims

variable {claims : Claims} {id : Int64}

/-- The subject is the text of a positive id. -/
def HasSubject (claims : Claims) (id : Int64) : Prop :=
  Text.readInt64? claims.sub = some id ∧ 0 < id

instance : Decidable (claims.HasSubject id) :=
  inferInstanceAs (Decidable (_ ∧ _))

theorem userId_eq_ok_iff : claims.userId = .ok id ↔ claims.HasSubject id := by
  unfold userId HasSubject
  cases hread : Text.readInt64? claims.sub with
  | none => simp
  | some read =>
      by_cases hpos : 0 < read
      · simp only [Option.filter_some, hpos, decide_true, if_true, Except.ok.injEq,
          Option.some.injEq]
        constructor
        · rintro rfl
          exact ⟨rfl, hpos⟩
        · exact And.left
      · simp only [Option.filter_some, hpos, decide_false, Bool.false_eq_true, if_false,
          reduceCtorEq, Option.some.injEq, false_iff, not_and]
        rintro rfl
        exact hpos

/-- A subject that is no positive id is the only fault there is. -/
theorem userId_of_no_subject (h : ∀ id, ¬ claims.HasSubject id) :
    claims.userId = .error (.malformed .subject) := by
  unfold userId
  split
  next id hid =>
    rw [Option.filter_eq_some_iff, decide_eq_true_eq] at hid
    exact absurd hid (h id)
  next => rfl

end Claims

namespace IdentityHeaders

variable {claims : Claims} {headers : Http.Headers} {id : Int64}

/-- The three fields that are written from claims. -/
def mintedFields (claims : Claims) (id : Int64) : List Http.Field :=
  [⟨userId, Text.utf8 (Text.ofInt64 id)⟩, ⟨userRole, claimValue (forwardedRole claims)⟩,
    ⟨userEmail, claimValue claims.email⟩]

/-- The headers with the three fields of the claims and no others under their names. -/
def minted (claims : Claims) (id : Int64) (headers : Http.Headers) : Http.Headers :=
  ⟨(strip headers).fields ++ mintedFields claims id⟩

theorem filter_strip (headers : Http.Headers) :
    ((headers.fields.filter fun field => field.name != userId).filter fun field =>
        field.name != userRole).filter (fun field => field.name != userEmail) =
      (strip headers).fields := by
  rw [strip, Http.Headers.removeAll, List.filter_filter, List.filter_filter]
  apply List.filter_congr
  intro field _
  simp only [names, List.contains_cons, List.contains_nil, Bool.or_false, Bool.not_or, bne]
  rw [Bool.and_comm]
  congr 1
  exact Bool.and_comm _ _

/-- Earlier values are replaced and never added to. -/
theorem write_of_hasSubject (headers : Http.Headers) (h : claims.HasSubject id) :
    (write claims).run headers = .ok () (minted claims id headers) := by
  rw [write, Claims.userId_eq_ok_iff.2 h]
  show EStateM.Result.ok () _ = _
  congr 1
  unfold Http.Headers.insertText Http.Headers.insert Http.Headers.append Http.Headers.remove
  simp only [List.filter_append, filter_strip]
  rw [minted, mintedFields, List.append_assoc, List.append_assoc]
  rfl

/-- Without a subject nothing is written. -/
theorem write_of_no_subject (headers : Http.Headers) (h : ∀ id, ¬ claims.HasSubject id) :
    (write claims).run headers = .error (.malformed .subject) headers := by
  rw [write, Claims.userId_of_no_subject h]
  rfl

theorem mint_of_hasSubject (headers : Http.Headers) (h : claims.HasSubject id) :
    mint claims headers = .ok (minted claims id headers) := by
  rw [mint, write_of_hasSubject headers h]

theorem mint_of_no_subject (headers : Http.Headers) (h : ∀ id, ¬ claims.HasSubject id) :
    mint claims headers = .error (.malformed .subject) := by
  rw [mint, write_of_no_subject headers h]

@[simp]
theorem strip_strip : strip (strip headers) = strip headers :=
  Http.Headers.removeAll_removeAll

@[simp]
theorem minted_strip : minted claims id (strip headers) = minted claims id headers := by
  unfold minted
  rw [strip_strip]

/-- Nothing but the three fields has changed. -/
@[simp]
theorem strip_minted : strip (minted claims id headers) = strip headers := by
  have hgone : (mintedFields claims id).filter (fun field => !names.contains field.name) = [] := rfl
  unfold minted
  conv => lhs; unfold strip Http.Headers.removeAll
  rw [List.filter_append, hgone, List.append_nil]
  exact strip_strip

theorem find?_append_mintedFields {name : String} (h : name ∈ names) :
    (minted claims id headers).get? name =
      ((mintedFields claims id).find? fun field => field.name == name).map Http.Field.value := by
  have hstripped : (strip headers).get? name = none := Http.Headers.get?_removeAll_of_mem h
  unfold Http.Headers.get? at hstripped ⊢
  rw [Option.map_eq_none_iff] at hstripped
  rw [minted, List.find?_append, hstripped, Option.none_or]

theorem get?_userId_minted :
    (minted claims id headers).get? userId = some (Text.utf8 (Text.ofInt64 id)) :=
  find?_append_mintedFields (by decide)

theorem get?_userRole_minted :
    (minted claims id headers).get? userRole = some (claimValue (forwardedRole claims)) :=
  find?_append_mintedFields (by decide)

theorem get?_userEmail_minted :
    (minted claims id headers).get? userEmail = some (claimValue claims.email) :=
  find?_append_mintedFields (by decide)

/-! ## Claims in values -/

theorem claimValue_of_isPlain {text : String} (h : Http.IsPlain text) :
    claimValue text = Text.utf8 text := by
  rw [claimValue, Http.valueOf?_of_isPlain h]
  rfl

/-- A value gives back the claim that it carries, or is empty; many values give back nothing. -/
theorem textOf?_claimValue {text read : String} (h : Http.textOf? (claimValue text) = some read) :
    (read = text ∧ Http.IsPlain text) ∨ read = "" := by
  unfold claimValue at h
  cases hvalue : Http.valueOf? text with
  | none =>
      rw [hvalue] at h
      right
      exact (Option.some.inj h).symm
  | some value =>
      rw [hvalue, (Http.valueOf?_eq_some_iff.1 hvalue).2] at h
      left
      exact Http.textOf?_utf8_eq_some_iff.1 h

end IdentityHeaders

end FoodOrdering
