import FoodOrdering.Proofs.Identity.Hop
import FoodOrdering.Proofs.Text.Segments

/-!
# E-mail addresses behind the hop

The edge forwards an e-mail address with whatever characters a header may carry, and a service reads
those of ASCII only.  Main statement: an address arrives exactly if it is visible ASCII and tabs;
any other one arrives empty, also one that was forwarded unchanged.
-/

namespace FoodOrdering

namespace Role

/-- Blanks name no role. -/
theorem readList_of_blank {text : String} (h : Text.isBlankText text = true) :
    readList text = [] := by
  have hblank : ∀ c ∈ text.toList, Text.isBlank c = true := List.all_eq_true.1 h
  have hcomma : ',' ∉ text.toList := fun hmem => absurd (hblank ',' hmem) (by decide)
  have hpieces : Text.commaList text = [] := by
    rw [Text.commaList, Text.segments_of_notMem hcomma, List.map_singleton,
      Text.trimChars_eq_nil_iff.2 hblank]
    rfl
  rw [readList, hpieces]
  rfl

end Role

namespace Identity

theorem delivered_eq_self_iff {claim : String} : delivered claim = claim ↔ Http.IsPlain claim := by
  constructor
  · intro hwhole
    by_contra hplain
    rw [delivered_of_not_isPlain hplain] at hwhole
    exact hplain (hwhole ▸ by decide)
  · exact delivered_of_isPlain

end Identity

namespace IdentityHeaders

/-- A claim is forwarded unchanged exactly if a header can carry it. -/
theorem claimValue_eq_iff {text : String} :
    claimValue text = Text.utf8 text ↔ Http.IsWritable text := by
  unfold claimValue
  cases hvalue : Http.valueOf? text with
  | some value =>
      obtain ⟨hwritable, rfl⟩ := Http.valueOf?_eq_some_iff.1 hvalue
      exact iff_of_true rfl hwritable
  | none =>
      have hnot : ¬ Http.IsWritable text := by
        intro hwritable
        rw [Http.valueOf?_eq_some_iff.2 ⟨hwritable, rfl⟩] at hvalue
        cases hvalue
      refine iff_of_false (fun hempty => hnot ?_) hnot
      have hnil : text = "" := Text.utf8_injective hempty.symm
      rw [hnil]
      decide

/-- What becomes of the e-mail address of some claims between the headers that are written and the
identity that is read. -/
structure CarriesEmail (claims : Claims) (written : Http.Headers) (read : Identity) : Prop where
  forwarded_iff :
    written.getAll userEmail = [Text.utf8 claims.email] ↔ Http.IsWritable claims.email
  arrives_iff : read.email = claims.email ↔ Http.IsPlain claims.email
  lost : ¬ Http.IsPlain claims.email → read.email = ""
  /-- Of the addresses that are forwarded those arrive that are in ASCII. -/
  arrives_iff_ascii : Http.IsWritable claims.email →
    (read.email = claims.email ↔ ∀ c ∈ claims.email.toList, c.toNat < 0x80)

theorem getAll_userEmail_minted (claims : Claims) (id : Int64) (headers : Http.Headers) :
    (minted claims id headers).getAll userEmail = [claimValue claims.email] := by
  have hstripped : (strip headers).getAll userEmail = [] :=
    Http.Headers.getAll_removeAll_of_mem (by decide)
  unfold Http.Headers.getAll at hstripped ⊢
  rw [minted, List.filter_append, List.map_append, hstripped]
  rfl

theorem carriesEmail_of_minted {claims : Claims} {id : Int64} {headers : Http.Headers}
    {read : Identity} (h : read.email = Identity.delivered claims.email) :
    CarriesEmail claims (minted claims id headers) read where
  forwarded_iff := by
    rw [getAll_userEmail_minted, List.singleton_inj, claimValue_eq_iff]
  arrives_iff := by
    rw [h, Identity.delivered_eq_self_iff]
  lost := by
    intro hplain
    rw [h, Identity.delivered_of_not_isPlain hplain]
  arrives_iff_ascii := by
    intro hwritable
    rw [h, Identity.delivered_eq_self_iff, Http.isPlain_iff_isWritable, and_iff_right hwritable]

/-- With a subject that is a positive id and a plain role claim that names a role, an admitted
service reads an identity, and in it the e-mail address of the claims exactly if that is plain. -/
theorem email_arrives_if_plain (claims : Claims) (id : Int64) (headers : Http.Headers)
    (zone : TrustZone) (peer : Option Address) (hadmits : zone.admits peer = true)
    (hsubject : claims.HasSubject id) (hplain : Http.IsPlain claims.role)
    (hroles : Role.readList claims.role ≠ []) :
    ∃ written read, mint claims headers = .ok written ∧
      Identity.reconstruct zone peer written = some read ∧ CarriesEmail claims written read := by
  have hblank : Text.isBlankText claims.role = false := by
    rw [Bool.eq_false_iff]
    exact fun hblank => hroles (Role.readList_of_blank hblank)
  have hdelivered := Identity.deliveredRoles_of_isPlain hblank hplain
  obtain ⟨read, hcreate, -⟩ := Identity.exists_of_deliveredRoles claims hsubject.2
    (by rwa [hdelivered])
  refine ⟨minted claims id headers, read, mint_of_hasSubject headers hsubject, ?_, ?_⟩
  · rw [Identity.reconstruct_minted hadmits hsubject.2, hcreate]
  · exact carriesEmail_of_minted ((Identity.create_eq_some_iff hsubject.2).1 hcreate).2.2.2

/-- A plain address in the claims of a customer. -/
theorem plain_email_arrives :
    let claims : Claims :=
      { sub := "42", role := "customer", email := "ama@example.org", iat := 0, exp := 1 }
    let peer : Option Address := some (.v4 ⟨10, 0, 0, 7⟩)
    TrustZone.privateNetwork.admits peer = true ∧ claims.HasSubject 42 ∧
      Http.IsPlain claims.role ∧ Role.readList claims.role ≠ [] ∧
      ∃ written read, mint claims .empty = .ok written ∧
        Identity.reconstruct .privateNetwork peer written = some read ∧
        read.email = "ama@example.org" := by
  intro claims peer
  have hadmits : TrustZone.privateNetwork.admits peer = true := by decide
  have hsubject : claims.HasSubject 42 := by decide
  have hplain : Http.IsPlain claims.role := by decide
  have hroles : Role.readList claims.role ≠ [] := by decide
  obtain ⟨written, read, hmint, hread, hemail⟩ :=
    email_arrives_if_plain claims 42 .empty .privateNetwork peer hadmits hsubject hplain hroles
  exact ⟨hadmits, hsubject, hplain, hroles, written, read, hmint, hread,
    hemail.arrives_iff.2 (by decide)⟩

/-- An address with a letter beyond ASCII is forwarded unchanged and arrives empty. -/
theorem forwarded_email_is_lost :
    let claims : Claims :=
      { sub := "42", role := "customer", email := "jörg@example.org", iat := 0, exp := 1 }
    claims.HasSubject 42 ∧ Http.IsPlain claims.role ∧ Role.readList claims.role = [.customer] ∧
      ∃ written read, mint claims .empty = .ok written ∧
        written.getAll userEmail = [Text.utf8 claims.email] ∧
        Identity.reconstruct .any none written = some read ∧ read.email ≠ claims.email := by
  intro claims
  have hsubject : claims.HasSubject 42 := by decide
  have hread : (Identity.reconstruct .any none (minted claims 42 .empty)).map Identity.email =
      some "" := by
    decide +kernel
  obtain ⟨read, hreconstruct, hemail⟩ := Option.map_eq_some_iff.1 hread
  refine ⟨hsubject, by decide, by decide, minted claims 42 .empty, read,
    mint_of_hasSubject .empty hsubject, by decide +kernel, hreconstruct, ?_⟩
  rw [hemail]
  decide

end IdentityHeaders

end FoodOrdering
