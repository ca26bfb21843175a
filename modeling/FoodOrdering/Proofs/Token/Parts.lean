import FoodOrdering.Token.Signed

/-!
# The parts of a token

A token is cut at its last two points: a text has one such cut at most, and what was put together
with points is cut into what it was put together from.
-/

namespace FoodOrdering.Token

theorem splitLast_append {separator : Char} {before behind : List Char} (h : separator ∉ behind) :
    splitLast separator (before ++ separator :: behind) = some (before, behind) := by
  have hreverse : (before ++ separator :: behind).reverse =
      behind.reverse ++ separator :: before.reverse := by simp
  have hrun : ∀ c ∈ behind.reverse, (c != separator) = true := by
    intro c hc
    rw [bne_iff_ne]
    rintro rfl
    exact h (List.mem_reverse.1 hc)
  unfold splitLast
  dsimp only
  rw [hreverse, List.dropWhile_append_of_pos hrun, List.takeWhile_append_of_pos hrun,
    List.dropWhile_cons_of_neg (by simp), List.takeWhile_cons_of_neg (by simp)]
  simp

theorem splitLast_eq_some_iff {separator : Char} {text before behind : List Char} :
    splitLast separator text = some (before, behind) ↔
      text = before ++ separator :: behind ∧ separator ∉ behind := by
  constructor
  · intro h
    unfold splitLast at h
    dsimp only at h
    have hwhole : text.reverse.takeWhile (· != separator) ++ text.reverse.dropWhile
      (· != separator) = text.reverse := List.takeWhile_append_dropWhile
    cases hdrop : text.reverse.dropWhile (· != separator) with
    | nil =>
        rw [hdrop] at h
        cases h
    | cons mark rest =>
        have hmark : mark = separator := by
          have hhead := List.head_dropWhile_not (p := (· != separator)) (l := text.reverse)
            (by rw [hdrop]; exact List.cons_ne_nil mark rest)
          simpa [hdrop] using hhead
        rw [hdrop] at h hwhole
        cases h
        constructor
        · have htext := congrArg List.reverse hwhole
          rw [List.reverse_reverse, hmark] at htext
          simpa using htext.symm
        · intro hmem
          have hbefore := List.all_eq_true.1 List.all_takeWhile separator (List.mem_reverse.1 hmem)
          simp at hbefore
  · rintro ⟨rfl, h⟩
    exact splitLast_append h

/-- The text is these three parts with points between them, and the points are its last two. -/
structure Parts.CutFrom (parts : Parts) (token : String) : Prop where
  text : token.toList = parts.message ++ '.' :: parts.signature
  payload : '.' ∉ parts.payload
  signature : '.' ∉ parts.signature

theorem Parts.ofText?_eq_some_iff {token : String} {parts : Parts} :
    Parts.ofText? token = some parts ↔ parts.CutFrom token := by
  unfold Parts.ofText?
  constructor
  · intro h
    obtain ⟨⟨message, signature⟩, hmessage, h⟩ := Option.bind_eq_some_iff.1 h
    obtain ⟨⟨header, payload⟩, hheader, h⟩ := Option.bind_eq_some_iff.1 h
    cases h
    obtain ⟨htext, hsignature⟩ := splitLast_eq_some_iff.1 hmessage
    obtain ⟨rfl, hpayload⟩ := splitLast_eq_some_iff.1 hheader
    exact ⟨htext, hpayload, hsignature⟩
  · rintro ⟨htext, hpayload, hsignature⟩
    rw [htext, splitLast_append hsignature]
    show (splitLast '.' parts.message).bind _ = _
    rw [Parts.message, splitLast_append hpayload]
    rfl

end FoodOrdering.Token
