import FoodOrdering.Proofs.Identity.Roles
import FoodOrdering.Proofs.Text.Blank
import FoodOrdering.Proofs.Text.Segments

/-!
# Role lists in texts

A role stands in a comma list if one of the segments spells it.  Main statement: reading gives the
roles that are spelled, each of them once and where it is spelled first; it turns a comma between
two lists into appending what is new, and gives back what was written.
-/

namespace FoodOrdering.Role

/-! ## Spellings -/

/-- The names of a role without a mark in front. -/
def bareSpellings : Role → List String
  | .owner => [Role.owner.name, "RESTAURANT_OWNER"]
  | role => [role.name]

/-- Each name of a role, as it is and with one mark in front. -/
def spellings (role : Role) : List String :=
  role.bareSpellings ++ role.bareSpellings.map ("ROLE_" ++ ·)

/-- Without the blanks around it and up to the case of ASCII letters, a segment is a spelling of
the role. -/
def IsSpelledBy (role : Role) (segment : List Char) : Prop :=
  ∃ spelling ∈ role.spellings,
    Text.sameIgnoringCase (Text.trim (String.ofList segment)) spelling = true

instance (role : Role) (segment : List Char) : Decidable (role.IsSpelledBy segment) :=
  inferInstanceAs (Decidable (∃ spelling ∈ role.spellings, _))

theorem ofBareName?_eq_some_iff {text : String} {role : Role} :
    ofBareName? text = some role ↔ text ∈ role.bareSpellings := by
  unfold ofBareName?
  constructor
  · intro h
    split at h
    next heq => cases h; simp [bareSpellings, name, heq]
    split at h
    next heq => cases h; simpa [bareSpellings, name] using heq
    split at h
    next heq => cases h; simp [bareSpellings, name, heq]
    split at h
    next heq => cases h; simp [bareSpellings, name, heq]
    next => cases h
  · intro h
    cases role with
    | owner =>
        rcases List.mem_cons.1 h with rfl | h
        · rfl
        · cases List.mem_singleton.1 h
          rfl
    | customer => cases List.mem_singleton.1 h; rfl
    | admin => cases List.mem_singleton.1 h; rfl
    | user => cases List.mem_singleton.1 h; rfl

/-- No name begins with the mark, so that one mark at most is taken off. -/
theorem not_isPrefixOf_of_mem_bareSpellings {role : Role} {spelling : String}
    (h : spelling ∈ role.bareSpellings) : legacyMark.isPrefixOf spelling.toList = false := by
  cases role with
  | owner =>
      rcases List.mem_cons.1 h with rfl | h
      · decide
      · cases List.mem_singleton.1 h
        decide
  | customer => cases List.mem_singleton.1 h; decide
  | admin => cases List.mem_singleton.1 h; decide
  | user => cases List.mem_singleton.1 h; decide

/-- A spelling is in capital letters. -/
theorem upperAscii_of_mem_spellings {role : Role} {spelling : String}
    (h : spelling ∈ role.spellings) : Text.upperAscii spelling = spelling := by
  have hall : ∀ role : Role, ∀ spelling ∈ role.spellings, Text.upperAscii spelling = spelling := by
    intro role
    cases role <;> decide
  exact hall role spelling h

theorem withoutMark_mem_iff {role : Role} {text : List Char} :
    String.ofList (withoutMark text) ∈ role.bareSpellings ↔
      String.ofList text ∈ role.spellings := by
  unfold withoutMark spellings
  rw [List.mem_append, List.mem_map]
  split
  next hmark =>
    obtain ⟨rest, rfl⟩ := List.isPrefixOf_iff_prefix.1 hmark
    rw [List.drop_left]
    constructor
    · intro h
      exact Or.inr ⟨_, h, by rw [← String.toList_inj]; simp [legacyMark]⟩
    · rintro (h | ⟨spelling, h, heq⟩)
      · have hnot := not_isPrefixOf_of_mem_bareSpellings h
        rw [String.toList_ofList, hmark] at hnot
        cases hnot
      · have hrest : spelling.toList = rest := by
          have hlist := congrArg String.toList heq
          simpa [legacyMark] using hlist
        rwa [← hrest, String.ofList_toList]
  next hmark =>
    constructor
    · exact Or.inl
    · rintro (h | ⟨spelling, -, heq⟩)
      · exact h
      · refine absurd (List.isPrefixOf_iff_prefix.2 ⟨spelling.toList, ?_⟩) hmark
        have hlist := congrArg String.toList heq
        simpa [legacyMark] using hlist

/-- A text spells the role that it is read as. -/
theorem ofText?_eq_some_iff {segment : List Char} {role : Role} :
    ofText? (String.ofList segment) = some role ↔ role.IsSpelledBy segment := by
  unfold ofText? IsSpelledBy
  rw [ofBareName?_eq_some_iff, withoutMark_mem_iff, String.toList_ofList]
  have hupper : Text.upperAscii (Text.trim (String.ofList segment)) =
      String.ofList ((Text.trimChars segment).map Char.toUpper) := by
    rw [Text.upperAscii, Text.trim, String.toList_ofList, String.toList_ofList]
  constructor
  · intro h
    refine ⟨_, h, Text.sameIgnoringCase_iff.2 ?_⟩
    rw [upperAscii_of_mem_spellings h, hupper]
  · rintro ⟨spelling, hspelling, hsame⟩
    rw [Text.sameIgnoringCase_iff, hupper, upperAscii_of_mem_spellings hspelling] at hsame
    rwa [hsame]

/-! ## Lists of segments -/

/-- The roles that segments spell, from first to last. -/
def spelled (segments : List (List Char)) : List Role :=
  segments.filterMap fun segment => ofText? (String.ofList segment)

theorem mem_spelled_iff {segments : List (List Char)} {role : Role} :
    role ∈ spelled segments ↔ ∃ segment ∈ segments, role.IsSpelledBy segment := by
  simp only [spelled, List.mem_filterMap, ofText?_eq_some_iff]

/-- Blanks around a segment and empty segments are of no account. -/
theorem readList_eq (text : String) :
    readList text = distinct (spelled (Text.segments ',' text.toList)) := by
  have htrim : ∀ segment, ofText? (String.ofList (Text.trimChars segment)) =
      ofText? (String.ofList segment) := by
    intro segment
    unfold ofText?
    rw [String.toList_ofList, String.toList_ofList, Text.trimChars_trimChars]
  have hskip : ∀ piece : List Char,
      (if !piece.isEmpty then ofText? (String.ofList piece) else none) =
        ofText? (String.ofList piece) := by
    intro piece
    cases piece with
    | nil =>
        have hempty : ofText? (String.ofList []) = none := by decide +kernel
        rw [hempty, ite_self]
    | cons c rest => exact if_pos rfl
  unfold readList spelled Text.commaList
  rw [List.filterMap_map, List.filterMap_filter, List.filterMap_map]
  refine congrArg distinct (List.filterMap_congr fun segment _ => ?_)
  rw [Function.comp_apply, Function.comp_apply]
  exact (hskip (Text.trimChars segment)).trans (htrim segment)

/-- The place of the first segment that spells a role. -/
def firstSpelling (segments : List (List Char)) (role : Role) : Nat :=
  segments.findIdx fun segment => decide (role.IsSpelledBy segment)

theorem firstSpelling_lt {segments : List (List Char)} {role : Role}
    (h : role ∈ spelled segments) : firstSpelling segments role < segments.length := by
  obtain ⟨segment, hmem, hspelled⟩ := mem_spelled_iff.1 h
  exact List.findIdx_lt_length_of_exists ⟨segment, hmem, decide_eq_true hspelled⟩

theorem firstSpelling_concat_of_mem {segments : List (List Char)} {role : Role}
    (segment : List Char) (h : role ∈ spelled segments) :
    firstSpelling (segments ++ [segment]) role = firstSpelling segments role := by
  have hlt := firstSpelling_lt h
  unfold firstSpelling at hlt ⊢
  rw [List.findIdx_append, if_pos hlt]

theorem le_firstSpelling_concat {segments : List (List Char)} {role : Role}
    (segment : List Char) (h : role ∉ spelled segments) :
    segments.length ≤ firstSpelling (segments ++ [segment]) role := by
  have hnone : firstSpelling segments role = segments.length := by
    refine List.findIdx_eq_length_of_false fun other hother => decide_eq_false fun hspelled => ?_
    exact h (mem_spelled_iff.2 ⟨other, hother, hspelled⟩)
  unfold firstSpelling at hnone ⊢
  rw [List.findIdx_append, hnone, if_neg (Nat.lt_irrefl _)]
  exact Nat.le_add_left _ _

/-- Roles are listed in the order in which they are spelled first. -/
theorem pairwise_distinct_spelled (segments : List (List Char)) :
    (distinct (spelled segments)).Pairwise fun earlier later =>
      firstSpelling segments earlier < firstSpelling segments later := by
  induction segments using List.reverseRecOn with
  | nil => exact .nil
  | append_singleton segments segment ih =>
      have hold : (distinct (spelled segments)).Pairwise fun earlier later =>
          firstSpelling (segments ++ [segment]) earlier <
            firstSpelling (segments ++ [segment]) later := by
        refine ih.imp_of_mem fun hearlier hlater hlt => ?_
        rwa [firstSpelling_concat_of_mem segment (mem_distinct.1 hearlier),
          firstSpelling_concat_of_mem segment (mem_distinct.1 hlater)]
      unfold spelled
      rw [List.filterMap_append]
      cases hrole : ofText? (String.ofList segment) with
      | none => simpa [hrole, spelled] using hold
      | some role =>
          have hlast : [segment].filterMap (fun segment => ofText? (String.ofList segment)) =
              [role] := List.filterMap_cons_some hrole
          rw [hlast, distinct_concat, addNew]
          split
          · exact hold
          next hnew =>
            refine List.pairwise_append.2 ⟨hold, List.pairwise_singleton _ _, ?_⟩
            intro earlier hearlier later hlater
            cases List.mem_singleton.1 hlater
            rw [firstSpelling_concat_of_mem segment (mem_distinct.1 hearlier)]
            exact Nat.lt_of_lt_of_le (firstSpelling_lt (mem_distinct.1 hearlier))
              (le_firstSpelling_concat segment (mem_distinct.not.1 hnew))

/-! ## Writing -/

theorem toList_intercalate_cons (first : String) (rest : List String) :
    (",".intercalate (first :: rest)).toList =
      ((first :: rest).flatMap fun name => ',' :: name.toList).drop 1 := by
  rw [String.toList_intercalate]
  induction rest generalizing first with
  | nil => simp [List.intercalate]
  | cons second rest ih =>
      rw [List.map_cons, List.map_cons, List.intercalate_cons_cons, ← List.map_cons, ih]
      simp

/-- The segments of a written list are the names in it. -/
theorem segments_writeList {roles : List Role} (h : roles ≠ []) :
    Text.segments ',' (writeList roles).toList = roles.map fun role => role.name.toList := by
  obtain ⟨first, rest, rfl⟩ := List.exists_cons_of_ne_nil h
  have hplain : ∀ role : Role, ',' ∉ role.name.toList := by
    intro role
    cases role <;> decide
  rw [writeList, List.map_cons, toList_intercalate_cons, ← List.map_cons, List.flatMap_map,
    ← List.flatMap_map (fun role : Role => role.name.toList) (fun segment => ',' :: segment)]
  refine Text.segments_drop_flatMap (by simp) fun segment hsegment => ?_
  obtain ⟨role, -, rfl⟩ := List.mem_map.1 hsegment
  exact hplain role

theorem readList_writeList (roles : List Role) : readList (writeList roles) = distinct roles := by
  rw [readList_eq]
  by_cases h : roles = []
  · subst h
    decide
  · have hname : ∀ role : Role, ofText? (String.ofList role.name.toList) = some role := by
      intro role
      cases role <;> decide +kernel
    have hall : ((fun segment => ofText? (String.ofList segment)) ∘ fun role : Role =>
        role.name.toList) = some := by
      funext role
      rw [Function.comp_apply, hname]
    rw [segments_writeList h, spelled, List.filterMap_map, hall, List.filterMap_some]

theorem readList_comma (first second : String) :
    readList (first ++ "," ++ second) =
      readList first ++ (readList second).filter fun role => role ∉ readList first := by
  have hlist : (first ++ "," ++ second).toList = first.toList ++ ',' :: second.toList := by simp
  rw [readList_eq, hlist, Text.segments_append_cons, spelled, List.filterMap_append,
    readList_eq first, readList_eq second]
  exact distinct_append _ _

/-! ## The codec -/

/-- Reading a list gives the roles that its segments spell, each of them once and in the order of
the first segments that spell them.  What stands behind a comma adds the roles that are new, and
what was written is read back without the later repetitions. -/
theorem role_lists_are_a_codec :
    (∀ (text : String) (role : Role), role ∈ readList text ↔
      ∃ segment ∈ Text.segments ',' text.toList, role.IsSpelledBy segment) ∧
    (∀ text : String, (readList text).Nodup ∧ (readList text).Pairwise fun earlier later =>
      firstSpelling (Text.segments ',' text.toList) earlier <
        firstSpelling (Text.segments ',' text.toList) later) ∧
    (∀ first second : String, readList (first ++ "," ++ second) =
      readList first ++ (readList second).filter fun role => role ∉ readList first) ∧
    (∀ roles : List Role, readList (writeList roles) = roles.eraseDups) ∧
    ∀ text : String, readList (writeList (readList text)) = readList text := by
  refine ⟨?_, ?_, readList_comma, ?_, ?_⟩
  · intro text role
    rw [readList_eq, mem_distinct, mem_spelled_iff]
  · intro text
    refine ⟨nodup_distinct _, ?_⟩
    rw [readList_eq]
    exact pairwise_distinct_spelled _
  · intro roles
    rw [readList_writeList, distinct_eq_eraseDups]
  · intro text
    rw [readList_writeList, distinct_readList]

end FoodOrdering.Role
