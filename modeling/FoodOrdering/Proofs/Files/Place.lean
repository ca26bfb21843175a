import FoodOrdering.Files.Tree
import FoodOrdering.Proofs.Text.Segments

/-!
# Where paths lead

A path is taken as a text here, and no file is asked.  It starts at the root or at the working
directory, a part that is a name leads below, and two points lead above: to where the last name is
not yet there, and from the working directory further and further away.  What a path from a
directory comes to is told by its own parts as long as it does not lead above the directory.
-/

namespace FoodOrdering.Path

structure Place where
  isRooted : Bool
  /-- How often the way leads above the working directory. -/
  ascent : Nat
  names : List (List Char)
  deriving DecidableEq, Repr

namespace Place

variable {place outer inner : Place} {parts : List (List Char)}

/-- Nothing is above the root. -/
def above (place : Place) : Place :=
  if place.names ≠ [] then { place with names := place.names.dropLast }
  else if place.isRooted then place
  else { place with ascent := place.ascent + 1 }

def follow (place : Place) (part : List Char) : Place :=
  if part = [] ∨ part = ['.'] then place
  else if part = ['.', '.'] then place.above
  else { place with names := place.names ++ [part] }

def walk (place : Place) (parts : List (List Char)) : Place :=
  parts.foldl follow place

def ofPath (path : String) : Place :=
  walk ⟨isAbsolute path, 0, []⟩ (Text.segments '/' path.toList)

def below (place : Place) (names : List (List Char)) : Place :=
  { place with names := place.names ++ names }

/-- The inner place is the outer one or lies below it. -/
def IsWithin (outer inner : Place) : Prop :=
  ∃ names, inner = outer.below names

theorem isWithin_iff :
    outer.IsWithin inner ↔
      inner.isRooted = outer.isRooted ∧ inner.ascent = outer.ascent ∧
        outer.names <+: inner.names := by
  constructor
  · rintro ⟨names, rfl⟩
    exact ⟨rfl, rfl, names, rfl⟩
  · rintro ⟨hrooted, hascent, names, hnames⟩
    exact ⟨names, by rw [below, hnames, ← hrooted, ← hascent]⟩

instance (outer inner : Place) : Decidable (outer.IsWithin inner) :=
  decidable_of_iff _ isWithin_iff.symm

theorem isWithin_below (place : Place) (names : List (List Char)) :
    place.IsWithin (place.below names) :=
  ⟨names, rfl⟩

theorem below_below (place : Place) (first second : List (List Char)) :
    (place.below first).below second = place.below (first ++ second) := by
  simp [below]

theorem IsWithin.trans {middle : Place} (houter : outer.IsWithin middle)
    (hinner : middle.IsWithin inner) : outer.IsWithin inner := by
  obtain ⟨first, rfl⟩ := houter
  obtain ⟨second, rfl⟩ := hinner
  exact ⟨first ++ second, below_below outer first second⟩

/-! ## Walking -/

theorem walk_append (place : Place) (first second : List (List Char)) :
    place.walk (first ++ second) = (place.walk first).walk second :=
  List.foldl_append

theorem isRooted_follow (place : Place) (part : List Char) :
    (place.follow part).isRooted = place.isRooted := by
  unfold follow above
  repeat' split
  all_goals rfl

theorem ascent_le_follow (place : Place) (part : List Char) :
    place.ascent ≤ (place.follow part).ascent := by
  unfold follow above
  repeat' split
  all_goals simp

theorem isRooted_walk (place : Place) (parts : List (List Char)) :
    (place.walk parts).isRooted = place.isRooted := by
  induction parts generalizing place with
  | nil => rfl
  | cons part rest ih => exact (ih _).trans (isRooted_follow place part)

theorem ascent_le_walk (place : Place) (parts : List (List Char)) :
    place.ascent ≤ (place.walk parts).ascent := by
  induction parts generalizing place with
  | nil => exact Nat.le_refl _
  | cons part rest ih => exact Nat.le_trans (ascent_le_follow place part) (ih _)

theorem walk_of_straight (h : ∀ part ∈ parts, part ≠ ['.', '.']) :
    place.IsWithin (place.walk parts) := by
  induction parts generalizing place with
  | nil => exact ⟨[], by simp [walk, below]⟩
  | cons part rest ih =>
      rw [List.forall_mem_cons] at h
      have hfollow : place.IsWithin (place.follow part) := by
        unfold follow
        rw [if_neg h.1]
        split
        · exact ⟨[], by simp [below]⟩
        · exact isWithin_below place [part]
      exact hfollow.trans (ih h.2)

theorem follow_below {names : List (List Char)} {part : List Char}
    (h : (follow ⟨false, 0, names⟩ part).ascent = 0) :
    ∃ next, follow ⟨false, 0, names⟩ part = ⟨false, 0, next⟩ ∧
      (place.below names).follow part = place.below next := by
  unfold follow at h ⊢
  by_cases hhere : part = [] ∨ part = ['.']
  · rw [if_pos hhere, if_pos hhere]
    exact ⟨names, rfl, rfl⟩
  rw [if_neg hhere] at h ⊢
  rw [if_neg hhere]
  by_cases habove : part = ['.', '.']
  · rw [if_pos habove] at h ⊢
    rw [if_pos habove]
    by_cases hnames : names = []
    · subst hnames
      cases h
    · have hbelow : place.names ++ names ≠ [] := List.append_ne_nil_of_right_ne_nil _ hnames
      refine ⟨names.dropLast, if_pos hnames, (if_pos hbelow).trans ?_⟩
      rw [below, below, List.dropLast_append_of_ne_nil hnames]
  · rw [if_neg habove, if_neg habove]
    exact ⟨names ++ [part], rfl, below_below place names [part]⟩

/-- Parts that never lead above the working directory lead from every place as they lead from
there. -/
theorem walk_below {names : List (List Char)}
    (h : (walk ⟨false, 0, names⟩ parts).ascent = 0) :
    (place.below names).walk parts = place.below (walk ⟨false, 0, names⟩ parts).names := by
  induction parts generalizing names with
  | nil => rfl
  | cons part rest ih =>
      have hlevel : (follow ⟨false, 0, names⟩ part).ascent = 0 :=
        Nat.le_zero.1 (Nat.le_trans (ascent_le_walk _ rest) (Nat.le_of_eq h))
      obtain ⟨next, hnext, hplace⟩ := follow_below hlevel
      show ((place.below names).follow part).walk rest =
        place.below (walk (follow ⟨false, 0, names⟩ part) rest).names
      rw [hplace, hnext]
      exact ih (hnext ▸ h)

/-! ## Paths from a directory -/

theorem isAbsolute_append {directory : String} (h : directory.toList ≠ []) (rest : String) :
    isAbsolute (directory ++ rest) = isAbsolute directory := by
  unfold isAbsolute
  rw [String.toList_append]
  cases hchars : directory.toList with
  | nil => exact absurd hchars h
  | cons c rest => rfl

theorem walk_segments_append (place : Place) (front rest : List Char) :
    place.walk (Text.segments '/' (front ++ '/' :: rest)) =
      (place.walk (Text.segments '/' front)).walk (Text.segments '/' rest) := by
  rw [Text.segments_append_cons, walk_append]

/-- A path that does not start at the root is walked from its directory. -/
theorem ofPath_join {directory path : String} (h : isAbsolute path = false) :
    ofPath (join directory path) = (ofPath directory).walk (Text.segments '/' path.toList) := by
  unfold join
  rw [h, if_neg Bool.false_ne_true]
  by_cases hempty : directory.toList = []
  · obtain rfl := String.toList_eq_nil_iff.1 hempty
    rw [if_pos (by rfl), String.empty_append, ofPath, h]
    rfl
  have hnonempty : directory.isEmpty = false := by
    rwa [String.isEmpty_eq_false_iff, ne_eq, ← String.toList_eq_nil_iff]
  rw [hnonempty, Bool.false_or]
  by_cases hslash : directory.toList.getLast? = some '/'
  · obtain ⟨front, hfront⟩ := List.getLast?_eq_some_iff.1 hslash
    rw [if_pos (beq_iff_eq.2 hslash), ofPath, isAbsolute_append hempty, String.toList_append,
      ofPath, hfront, List.append_assoc, List.singleton_append, walk_segments_append,
      walk_segments_append]
    rfl
  · rw [if_neg (by simpa using hslash), String.append_assoc, ofPath, isAbsolute_append hempty,
      String.toList_append, String.toList_append]
    exact walk_segments_append _ _ _

end Place

/-- The path is taken from where one stands, and never leads above that. -/
structure Descends (path : String) : Prop where
  relative : isAbsolute path = false
  level : (Place.ofPath path).ascent = 0

instance (path : String) : Decidable (Descends path) :=
  decidable_of_iff (isAbsolute path = false ∧ (Place.ofPath path).ascent = 0)
    ⟨fun h => ⟨h.1, h.2⟩, fun h => ⟨h.relative, h.level⟩⟩

namespace Place

theorem isWithin_join_of_descends {path : String} (h : Descends path) (directory : String) :
    (ofPath directory).IsWithin (ofPath (join directory path)) := by
  have hlevel := h.level
  rw [ofPath, h.relative] at hlevel
  have hbelow : (ofPath directory).below [] = ofPath directory := by simp [below]
  rw [ofPath_join h.relative, ← hbelow, walk_below hlevel, hbelow]
  exact isWithin_below _ _

/-- A path that stays within every directory that it is taken from never leads above, since it
would already leave the working directory. -/
theorem forall_isWithin_join_iff {path : String} :
    (∀ directory, (ofPath directory).IsWithin (ofPath (join directory path))) ↔ Descends path := by
  constructor
  · intro h
    have hhere : join "" path = path := by
      unfold join
      split
      · rfl
      · exact String.empty_append
    obtain ⟨names, hnames⟩ := hhere ▸ h ""
    have hrooted : (ofPath path).isRooted = isAbsolute path := isRooted_walk _ _
    rw [hnames] at hrooted
    exact ⟨hrooted.symm, by rw [hnames]; rfl⟩
  · exact isWithin_join_of_descends

end Place

end FoodOrdering.Path
