import FoodOrdering.Network.Url
import FoodOrdering.Proofs.Text.Segments
import Mathlib.Data.List.Basic
import Mathlib.Data.List.TakeWhile

/-!
# Paths that are asked for as they stand

Reading an address changes its path: characters are written by number, backslashes become slashes,
and segments of points are walked.  The paths that it leaves alone are those without anything of
that kind, and no others; a path that is something else is asked for as another one.
-/

namespace FoodOrdering

namespace Url

/-- What is asked for with a text for the path. -/
def settle (text : List Char) : List Char :=
  (segmentsOf (text.drop 1)).flatMap fun segment => '/' :: segment

/-- A text for a path in which nothing is written otherwise and nothing is walked. -/
structure IsSettled (text : List Char) : Prop where
  rooted : text.head? = some '/'
  plain : ∀ c ∈ text, isByNumberInPath c = false ∧ c ≠ '\\'
  straight : ∀ segment ∈ Text.segments '/' (text.drop 1),
    isHere segment = false ∧ isAbove segment = false

instance (text : List Char) : Decidable (IsSettled text) :=
  decidable_of_iff
    (text.head? = some '/' ∧ (text.all fun c => !isByNumberInPath c && c != '\\') ∧
      (Text.segments '/' (text.drop 1)).all fun segment => !isHere segment && !isAbove segment)
    ⟨fun ⟨hrooted, hplain, hstraight⟩ => ⟨hrooted, by simpa using hplain, by simpa using hstraight⟩,
      fun h => ⟨h.rooted, by simpa using h.plain, by simpa using h.straight⟩⟩

/-- A backslash counts as a slash. -/
def withSlashes (text : List Char) : List Char :=
  text.map fun c => if c == '\\' then '/' else c

theorem segmentsOf_eq (text : List Char) :
    segmentsOf text = walk [] (Text.segments '/' (withSlashes text)) :=
  rfl

theorem withSlashes_of_plain {text : List Char} (h : ∀ c ∈ text, c ≠ '\\') :
    withSlashes text = text := by
  refine (List.map_congr_left fun c hc => ?_).trans (List.map_id text)
  simp [h c hc]

theorem ne_of_mem_withSlashes {text : List Char} {c : Char} (h : c ∈ withSlashes text) :
    c ≠ '\\' := by
  obtain ⟨d, -, rfl⟩ := List.mem_map.1 h
  split <;> simp_all

theorem encode_of_plain {text : List Char} (h : ∀ c ∈ text, isByNumberInPath c = false) :
    encode isByNumberInPath text = text := by
  induction text with
  | nil => rfl
  | cons c rest ih =>
      rw [List.forall_mem_cons] at h
      have hrest := ih h.2
      rw [encode] at hrest ⊢
      rw [List.flatMap_cons, hrest, h.1]
      rfl

/-- A digit of a byte stands for itself. -/
theorem plain_of_mem_hexDigits {byte : UInt8} {c : Char} (h : c ∈ hexDigits byte) :
    isByNumberInPath c = false ∧ c ≠ '\\' := by
  have hdigit : ∀ n < 16, isByNumberInPath (Nat.digitChar n).toUpper = false ∧
      (Nat.digitChar n).toUpper ≠ '\\' := by decide
  have hbyte := byte.toNat_lt
  simp only [hexDigits, List.map_cons, List.map_nil, List.mem_cons, List.not_mem_nil, or_false]
    at h
  rcases h with rfl | rfl
  · exact hdigit _ (by omega)
  · exact hdigit _ (by omega)

theorem plain_of_mem_encode {text : List Char} (htext : ∀ c ∈ text, c ≠ '\\') {c : Char}
    (h : c ∈ encode isByNumberInPath text) : isByNumberInPath c = false ∧ c ≠ '\\' := by
  obtain ⟨d, hd, hc⟩ := List.mem_flatMap.1 h
  split at hc
  next =>
    obtain ⟨byte, -, hc⟩ := List.mem_flatMap.1 hc
    rcases List.mem_cons.1 hc with rfl | hc
    · exact ⟨by decide, by decide⟩
    · exact plain_of_mem_hexDigits hc
  next hplain =>
    rw [List.mem_singleton.1 hc]
    exact ⟨Bool.eq_false_iff.2 hplain, htext d hd⟩

/-! ## Walking -/

/-- Nothing is walked where no segment stands for a place. -/
theorem walk_of_straight {list place : List (List Char)}
    (h : ∀ segment ∈ list, (isHere segment = false ∧ isAbove segment = false) ∧
      encode isByNumberInPath segment = segment) :
    walk place list = place.reverse ++ list := by
  induction list generalizing place with
  | nil => simp [walk]
  | cons segment rest ih =>
      rw [List.forall_mem_cons] at h
      obtain ⟨⟨⟨hhere, habove⟩, hplain⟩, hrest⟩ := h
      cases rest with
      | nil => simp [walk, hhere, habove, hplain]
      | cons next rest => simp [walk, hhere, habove, hplain, ih hrest]

/-- A segment at the end of a walk was there before, or one that stands for no place has become it,
or it is what the last points leave. -/
theorem mem_walk {list place : List (List Char)} {segment : List Char}
    (h : segment ∈ walk place list) :
    segment ∈ place ∨ segment = [] ∨
      ∃ old ∈ list, (isHere old = false ∧ isAbove old = false) ∧
        segment = encode isByNumberInPath old := by
  induction list generalizing place with
  | nil => exact Or.inl (by simpa [walk] using h)
  | cons old rest ih =>
      have hback : segment ∈ place.drop 1 → segment ∈ place := List.mem_of_mem_drop
      cases rest with
      | nil =>
          simp only [walk] at h
          split at h
          next =>
            rcases List.mem_append.1 h with h | h
            · exact Or.inl (hback (List.mem_reverse.1 h))
            · exact Or.inr (Or.inl (List.mem_singleton.1 h))
          next habove =>
            split at h
            next =>
              rcases List.mem_append.1 h with h | h
              · exact Or.inl (List.mem_reverse.1 h)
              · exact Or.inr (Or.inl (List.mem_singleton.1 h))
            next hhere =>
              rcases List.mem_append.1 h with h | h
              · exact Or.inl (List.mem_reverse.1 h)
              · exact Or.inr (Or.inr ⟨old, List.mem_cons_self,
                  ⟨Bool.eq_false_iff.2 hhere, Bool.eq_false_iff.2 habove⟩,
                  List.mem_singleton.1 h⟩)
      | cons next rest =>
          have hlater : (∃ former ∈ next :: rest,
              (isHere former = false ∧ isAbove former = false) ∧
                segment = encode isByNumberInPath former) →
              ∃ former ∈ old :: next :: rest,
                (isHere former = false ∧ isAbove former = false) ∧
                  segment = encode isByNumberInPath former := by
            rintro ⟨former, hmem, hformer⟩
            exact ⟨former, List.mem_cons_of_mem _ hmem, hformer⟩
          simp only [walk] at h
          split at h
          next => exact (ih h).imp hback (Or.imp_right hlater)
          next habove =>
            split at h
            next => exact (ih h).imp_right (Or.imp_right hlater)
            next hhere =>
              rcases ih h with h | h | h
              · rcases List.mem_cons.1 h with rfl | h
                · exact Or.inr (Or.inr ⟨old, List.mem_cons_self,
                    ⟨Bool.eq_false_iff.2 hhere, Bool.eq_false_iff.2 habove⟩, rfl⟩)
                · exact Or.inl h
              · exact Or.inr (Or.inl h)
              · exact Or.inr (Or.inr (hlater h))

/-! ## Settled paths -/

theorem settle_of_isSettled {text : List Char} (h : IsSettled text) : settle text = text := by
  cases text with
  | nil => cases h.rooted
  | cons slash rest =>
      obtain rfl : slash = '/' := Option.some.inj h.rooted
      have hplain : ∀ c ∈ rest, isByNumberInPath c = false ∧ c ≠ '\\' :=
        fun c hc => h.plain c (List.mem_cons_of_mem _ hc)
      have hsegments : ∀ segment ∈ Text.segments '/' rest,
          (isHere segment = false ∧ isAbove segment = false) ∧
            encode isByNumberInPath segment = segment :=
        fun segment hmem => ⟨h.straight segment hmem,
          encode_of_plain fun c hc => (hplain c (Text.mem_of_mem_segments hmem hc).1).1⟩
      rw [settle, List.drop_succ_cons, List.drop_zero, segmentsOf_eq,
        withSlashes_of_plain fun c hc => (hplain c hc).2, walk_of_straight hsegments,
        List.reverse_nil, List.nil_append, Text.flatMap_segments]

/-- Whatever is asked for has no character that stands for something else. -/
theorem plain_of_mem_settle {text : List Char} {c : Char} (h : c ∈ settle text) :
    isByNumberInPath c = false ∧ c ≠ '\\' := by
  obtain ⟨segment, hsegment, hc⟩ := List.mem_flatMap.1 h
  rcases List.mem_cons.1 hc with rfl | hc
  · exact ⟨by decide, by decide⟩
  rcases mem_walk hsegment with hnone | rfl | ⟨old, hold, -, rfl⟩
  · cases hnone
  · cases hc
  · exact plain_of_mem_encode
      (fun d hd => ne_of_mem_withSlashes (Text.mem_of_mem_segments hold hd).1) hc

theorem isSettled_of_settle_eq {text : List Char} (h : settle text = text) : IsSettled text := by
  have hplain : ∀ c ∈ text, isByNumberInPath c = false ∧ c ≠ '\\' :=
    fun c hc => plain_of_mem_settle (h.symm ▸ hc)
  have hrest : ∀ c ∈ text.drop 1, isByNumberInPath c = false ∧ c ≠ '\\' :=
    fun c hc => hplain c (List.mem_of_mem_drop hc)
  have hwalk : segmentsOf (text.drop 1) = walk [] (Text.segments '/' (text.drop 1)) := by
    rw [segmentsOf_eq, withSlashes_of_plain fun c hc => (hrest c hc).2]
  -- No character is written by number, and so the segments of the walk are segments of the text.
  have hkept : ∀ segment ∈ segmentsOf (text.drop 1),
      segment = [] ∨ segment ∈ Text.segments '/' (text.drop 1) ∧
        isHere segment = false ∧ isAbove segment = false := by
    intro segment hsegment
    rw [hwalk] at hsegment
    rcases mem_walk hsegment with hnone | hnil | ⟨old, hold, hstraight, rfl⟩
    · cases hnone
    · exact Or.inl hnil
    · rw [encode_of_plain fun c hc => (hrest c (Text.mem_of_mem_segments hold hc).1).1]
      exact Or.inr ⟨hold, hstraight⟩
  have hsegments : Text.segments '/' (text.drop 1) = segmentsOf (text.drop 1) := by
    have hnone : ∀ segment ∈ segmentsOf (text.drop 1), '/' ∉ segment := by
      intro segment hsegment hslash
      rcases hkept segment hsegment with rfl | ⟨hmem, -⟩
      · cases hslash
      · exact (Text.mem_of_mem_segments hmem hslash).2 rfl
    have hjoined := Text.segments_drop_flatMap (segmentsOf_ne_nil (text.drop 1)) hnone
    change Text.segments '/' ((settle text).drop 1) = _ at hjoined
    rwa [h] at hjoined
  refine ⟨?_, hplain, fun segment hsegment => ?_⟩
  · rw [← h, settle]
    cases hlist : segmentsOf (text.drop 1) with
    | nil => exact absurd hlist (segmentsOf_ne_nil _)
    | cons first others => rfl
  · rw [hsegments] at hsegment
    rcases hkept segment hsegment with rfl | ⟨-, hstraight⟩
    · simp [isHere, isAbove, plainPoints]
    · exact hstraight

/-- A path is asked for as it stands exactly if it is settled. -/
theorem settle_eq_self_iff {text : List Char} : settle text = text ↔ IsSettled text :=
  ⟨isSettled_of_settle_eq, settle_of_isSettled⟩

end Url

end FoodOrdering
