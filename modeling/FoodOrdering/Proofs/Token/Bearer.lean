import FoodOrdering.Proofs.Http.Readable
import FoodOrdering.Proofs.Text.Blank
import FoodOrdering.Token.Bearer

/-!
# Requests that show a token

Which headers show which token, said without the steps by which it is taken out of them.
-/

namespace FoodOrdering.Token

/-- The first `Authorization` value is a text of visible ASCII and tabs that consists of the word
`Bearer`, a space and a rest that is not blank.  The token is the rest less the blanks around it. -/
def Shows (headers : Http.Headers) (token : String) : Prop :=
  ∃ rest : String, headers.get? "authorization" = some (Text.utf8 ("Bearer " ++ rest)) ∧
    Http.IsPlain rest ∧ Text.isBlankText rest = false ∧ token = Text.trim rest

theorem isBlankText_eq_false_iff {text : String} :
    Text.isBlankText text = false ↔ Text.trimChars text.toList ≠ [] := by
  rw [Text.isBlankText, ne_eq, Text.trimChars_eq_nil_iff, ← List.all_eq_true, Bool.not_eq_true]

theorem afterBearer?_eq_some_iff {text token : String} :
    afterBearer? text = some token ↔
      ∃ rest : String, text = "Bearer " ++ rest ∧ Text.isBlankText rest = false ∧
        token = Text.trim rest := by
  have hmark : "Bearer ".toList = bearerMark := by decide
  constructor
  · intro h
    unfold afterBearer? at h
    split at h
    next hprefix =>
      obtain ⟨rest, hrest⟩ := List.isPrefixOf_iff_prefix.1 hprefix
      rw [← hrest, List.drop_left] at h
      dsimp only at h
      split at h
      next => cases h
      next hnonempty =>
        refine ⟨String.ofList rest, ?_, ?_, ?_⟩
        · rw [← String.toList_inj, String.toList_append, hmark, String.toList_ofList, hrest]
        · rw [isBlankText_eq_false_iff, String.toList_ofList]
          intro hnil
          exact hnonempty (by rw [hnil]; rfl)
        · rw [Text.trim, String.toList_ofList]
          exact (Option.some.inj h).symm
    next => cases h
  · rintro ⟨rest, rfl, hblank, rfl⟩
    rw [isBlankText_eq_false_iff] at hblank
    have hprefix : bearerMark.isPrefixOf ("Bearer " ++ rest).toList = true := by
      rw [List.isPrefixOf_iff_prefix, String.toList_append, hmark]
      exact List.prefix_append _ _
    rw [afterBearer?, if_pos hprefix, String.toList_append, hmark, List.drop_left]
    dsimp only
    rw [if_neg (by rwa [List.isEmpty_iff])]
    rfl

theorem bearer_eq_ok_iff {headers : Http.Headers} {token : String} :
    bearer headers = .ok token ↔ Shows headers token := by
  have hbind : bearer headers = .ok token ↔
      (headers.getText? "authorization").bind afterBearer? = some token := by
    unfold bearer
    split
    next shown hshown =>
      rw [hshown, Except.ok.injEq, Option.some.injEq]
    next hnone =>
      rw [hnone]
      simp
  rw [hbind, Option.bind_eq_some_iff]
  unfold Http.Headers.getText? Shows
  constructor
  · rintro ⟨text, htext, hafter⟩
    obtain ⟨value, hvalue, hread⟩ := Option.bind_eq_some_iff.1 htext
    obtain ⟨rfl, hplain⟩ := Http.textOf?_eq_some_iff.1 hread
    obtain ⟨rest, rfl, hblank, rfl⟩ := afterBearer?_eq_some_iff.1 hafter
    exact ⟨rest, hvalue, (Http.isPlain_append.1 hplain).2, hblank, rfl⟩
  · rintro ⟨rest, hvalue, hplain, hblank, rfl⟩
    have hall : Http.IsPlain ("Bearer " ++ rest) := Http.isPlain_append.2 ⟨by decide, hplain⟩
    refine ⟨"Bearer " ++ rest, ?_, afterBearer?_eq_some_iff.2 ⟨rest, rfl, hblank, rfl⟩⟩
    rw [hvalue, Option.bind_some]
    exact Http.textOf?_utf8_eq_some_iff.2 ⟨rfl, hall⟩

end FoodOrdering.Token
