import FoodOrdering.Proofs.Store.Table
import FoodOrdering.Service.FieldErrors
import FoodOrdering.Service.Problem

/-!
# All that was said

What is wrong with a request is said of one field after the other.  The record of it tells, of every
field of which something was said, all that was said of it in its order, and of no other field.
-/

namespace FoodOrdering.FieldErrors

/-- Say messages of fields, one after the other. -/
def sayAll (errors : FieldErrors) (said : List (String × String)) : FieldErrors :=
  said.foldl (fun errors entry => errors.add entry.1 entry.2) errors

/-- The messages that were said of a field. -/
def messagesFor (field : String) (said : List (String × String)) : List String :=
  (said.filter fun entry => entry.1 = field).map Prod.snd

section Saying

variable (errors : FieldErrors)

theorem sayAll_append (first second : List (String × String)) :
    errors.sayAll (first ++ second) = (errors.sayAll first).sayAll second :=
  List.foldl_append

theorem of_add_self (field message : String) :
    (errors.add field message).of field = errors.of field ++ [message] := by
  rw [of, add, Table.find?_insert_self]
  rfl

theorem of_add_of_ne {field other : String} (message : String) (h : other ≠ field) :
    (errors.add field message).of other = errors.of other := by
  rw [of, add, Table.find?_insert_of_ne _ _ h]
  rfl

theorem of_sayAll (field : String) (said : List (String × String)) :
    (errors.sayAll said).of field = errors.of field ++ messagesFor field said := by
  induction said generalizing errors with
  | nil => exact (List.append_nil _).symm
  | cons entry rest ih =>
      obtain ⟨named, message⟩ := entry
      show ((errors.add named message).sayAll rest).of field = _
      rw [ih]
      by_cases heq : named = field
      · subst heq
        rw [of_add_self, messagesFor, messagesFor, List.filter_cons_of_pos (by simp),
          List.append_assoc]
        rfl
      · rw [of_add_of_ne _ _ (Ne.symm heq), messagesFor, messagesFor,
          List.filter_cons_of_neg (by simpa using heq)]

end Saying

/-! ## What is reported -/

/-- Something was said of every field that has an entry. -/
def IsSpoken (errors : FieldErrors) : Prop :=
  ∀ field, errors.messages.find? field ≠ some []

theorem isSpoken_empty : empty.IsSpoken := nofun

theorem IsSpoken.add {errors : FieldErrors} (h : errors.IsSpoken) (field message : String) :
    (errors.add field message).IsSpoken := by
  intro other hother
  rcases Table.find?_insert_eq_some hother with ⟨-, hnil⟩ | ⟨-, hold⟩
  · exact List.append_ne_nil_of_right_ne_nil _ (List.cons_ne_nil message []) hnil.symm
  · exact h other hold

theorem IsSpoken.sayAll {errors : FieldErrors} (h : errors.IsSpoken)
    (said : List (String × String)) : (errors.sayAll said).IsSpoken := by
  induction said generalizing errors with
  | nil => exact h
  | cons entry rest ih => exact ih (h.add entry.1 entry.2)

/-- A field is reported if something was said of it, with all that was said of it. -/
theorem IsSpoken.mem_joined_iff {errors : FieldErrors} (h : errors.IsSpoken)
    {field text : String} :
    (field, text) ∈ errors.joined ↔
      errors.of field ≠ [] ∧ text = "; ".intercalate (errors.of field) := by
  rw [joined, List.mem_map]
  constructor
  · rintro ⟨⟨named, messages⟩, hmem, heq⟩
    cases heq
    have hfound := Table.find?_eq_some_iff.2 hmem
    have hof : errors.of named = messages := by rw [of, hfound]; rfl
    rw [hof]
    exact ⟨fun hnil => h named (hnil ▸ hfound), rfl⟩
  · rintro ⟨hne, rfl⟩
    refine ⟨(field, errors.of field), Table.find?_eq_some_iff.1 ?_, rfl⟩
    cases hfound : errors.messages.find? field with
    | none => exact absurd (by rw [of, hfound]; rfl) hne
    | some messages => rw [of, hfound]; rfl

theorem nodup_joined (errors : FieldErrors) : (errors.joined.map Prod.fst).Nodup := by
  rw [joined, List.map_map]
  exact errors.messages.nodup_keys

theorem mem_messagesFor_iff {field text : String} {said : List (String × String)} :
    text ∈ messagesFor field said ↔ (field, text) ∈ said := by
  simp [messagesFor]

/-- Of a field of which one thing was said nothing else was said. -/
theorem messagesFor_of_mem {said : List (String × String)} (hnodup : (said.map Prod.fst).Nodup)
    {field text : String} (h : (field, text) ∈ said) : messagesFor field said = [text] := by
  induction said with
  | nil => cases h
  | cons entry rest ih =>
      obtain ⟨named, message⟩ := entry
      obtain ⟨hnot, hrest⟩ := List.nodup_cons.1 hnodup
      rcases List.mem_cons.1 h with heq | hbehind
      · cases heq
        have hnone : messagesFor field rest = [] := by
          refine List.eq_nil_iff_forall_not_mem.2 fun other hother => ?_
          exact hnot (List.mem_map.2 ⟨_, mem_messagesFor_iff.1 hother, rfl⟩)
        rw [messagesFor, List.filter_cons_of_pos (by simp), List.map_cons]
        exact congrArg (text :: ·) hnone
      · have hne : named ≠ field := by
          rintro rfl
          exact hnot (List.mem_map.2 ⟨_, hbehind, rfl⟩)
        rw [messagesFor, List.filter_cons_of_neg (by simpa using hne)]
        exact ih hrest hbehind

/-- If at most one thing is said of any field, what was said is what is reported. -/
theorem mem_joined_sayAll_iff {said : List (String × String)}
    (hnodup : (said.map Prod.fst).Nodup) {field text : String} :
    (field, text) ∈ (empty.sayAll said).joined ↔ (field, text) ∈ said := by
  have hof : (empty.sayAll said).of field = messagesFor field said :=
    empty.of_sayAll field said
  rw [(isSpoken_empty.sayAll said).mem_joined_iff, hof]
  constructor
  · rintro ⟨hne, rfl⟩
    obtain ⟨message, hmessage⟩ := List.exists_mem_of_ne_nil _ hne
    have hmem := mem_messagesFor_iff.1 hmessage
    rw [messagesFor_of_mem hnodup hmem]
    exact hmem
  · intro hmem
    rw [messagesFor_of_mem hnodup hmem]
    exact ⟨List.cons_ne_nil _ _, rfl⟩

/-! ## Field by field -/

section Fields

variable {Field : Type} {key : Field → String} {faults : Field → List String}

/-- The messages of some fields under their keys, field by field. -/
def entriesOf (key : Field → String) (faults : Field → List String) (fields : List Field) :
    List (String × String) :=
  fields.flatMap fun field => (faults field).map fun message => (key field, message)

theorem messagesFor_append (field : String) (first second : List (String × String)) :
    messagesFor field (first ++ second) = messagesFor field first ++ messagesFor field second := by
  rw [messagesFor, List.filter_append, List.map_append]
  rfl

theorem messagesFor_map_self (name : String) (messages : List String) :
    messagesFor name (messages.map fun message => (name, message)) = messages := by
  simp [messagesFor, List.filter_map, Function.comp_def]

/-- Keys tell fields apart, so that under the key of a field stand its own messages only. -/
theorem messagesFor_entriesOf (hkey : Function.Injective key) {fields : List Field}
    (hnodup : fields.Nodup) {field : Field} (hmem : field ∈ fields) :
    messagesFor (key field) (entriesOf key faults fields) = faults field := by
  have hother : ∀ others : List Field, field ∉ others →
      messagesFor (key field) (entriesOf key faults others) = [] := by
    intro others hnot
    refine List.eq_nil_iff_forall_not_mem.2 fun message hmessage => ?_
    obtain ⟨other, hin, hentry⟩ := List.mem_flatMap.1 (mem_messagesFor_iff.1 hmessage)
    obtain ⟨_, -, heq⟩ := List.mem_map.1 hentry
    exact hnot (hkey (congrArg Prod.fst heq) ▸ hin)
  induction fields with
  | nil => cases hmem
  | cons first rest ih =>
      obtain ⟨hnot, hrest⟩ := List.nodup_cons.1 hnodup
      rw [entriesOf, List.flatMap_cons, messagesFor_append]
      rcases List.mem_cons.1 hmem with rfl | hbehind
      · rw [messagesFor_map_self]
        show faults field ++ messagesFor (key field) (entriesOf key faults rest) = _
        rw [hother rest hnot, List.append_nil]
      · have hne : field ∉ [first] := by
          rintro hsame
          exact hnot (List.mem_singleton.1 hsame ▸ hbehind)
        have hfirst := hother [first] hne
        rw [entriesOf, List.flatMap_singleton] at hfirst
        rw [hfirst, List.nil_append]
        exact ih hrest hbehind

/-- The report has one entry for each field that is violated, which tells all that is wrong with the
field in the order in which it was found, and no other entries. -/
structure IsReport (key : Field → String) (faults : Field → List String)
    (violated : Field → Prop) (report : List (String × String)) : Prop where
  nodup : (report.map Prod.fst).Nodup
  mem_iff : ∀ name text, (name, text) ∈ report ↔
    ∃ field, key field = name ∧ faults field ≠ [] ∧ text = "; ".intercalate (faults field)
  key_mem_iff : ∀ field, key field ∈ report.map Prod.fst ↔ violated field

theorem isReport_sayAll (hkey : Function.Injective key) {fields : List Field}
    (hnodup : fields.Nodup) (hall : ∀ field, field ∈ fields) {violated : Field → Prop}
    (hviolated : ∀ field, faults field ≠ [] ↔ violated field) :
    IsReport key faults violated (empty.sayAll (entriesOf key faults fields)).joined := by
  have hof : ∀ name, (empty.sayAll (entriesOf key faults fields)).of name =
      messagesFor name (entriesOf key faults fields) :=
    fun name => empty.of_sayAll name _
  have hmem : ∀ name text, (name, text) ∈ (empty.sayAll (entriesOf key faults fields)).joined ↔
      ∃ field, key field = name ∧ faults field ≠ [] ∧ text = "; ".intercalate (faults field) := by
    intro name text
    rw [(isSpoken_empty.sayAll _).mem_joined_iff, hof]
    constructor
    · rintro ⟨hne, rfl⟩
      obtain ⟨message, hmessage⟩ := List.exists_mem_of_ne_nil _ hne
      obtain ⟨field, -, hentry⟩ := List.mem_flatMap.1 (mem_messagesFor_iff.1 hmessage)
      obtain ⟨_, -, heq⟩ := List.mem_map.1 hentry
      obtain rfl : key field = name := congrArg Prod.fst heq
      rw [messagesFor_entriesOf hkey hnodup (hall field)] at hne ⊢
      exact ⟨field, rfl, hne, rfl⟩
    · rintro ⟨field, rfl, hne, rfl⟩
      rw [messagesFor_entriesOf hkey hnodup (hall field)]
      exact ⟨hne, rfl⟩
  refine ⟨nodup_joined _, hmem, fun field => ?_⟩
  rw [← hviolated, List.mem_map]
  constructor
  · rintro ⟨⟨name, text⟩, hentry, hname⟩
    obtain ⟨other, hother, hne, -⟩ := (hmem name text).1 hentry
    exact hkey (hother.trans hname) ▸ hne
  · intro hne
    exact ⟨(key field, _), (hmem _ _).2 ⟨field, rfl, hne, rfl⟩, rfl⟩

end Fields

end FoodOrdering.FieldErrors
