import FoodOrdering.Text.Decimal
import FoodOrdering.Text.Segments
import Mathlib.Data.List.DropRight
import Mathlib.Data.List.TakeWhile

/-!
# What trimming leaves

A text of blanks is trimmed to nothing and no other text is.  A text without blanks, such as that
of a number, is left as it is.
-/

namespace FoodOrdering.Text

theorem dropEnd_eq_nil_iff {p : Char → Bool} {text : List Char} :
    dropEnd p text = [] ↔ ∀ c ∈ text, p c = true := by
  rw [dropEnd, List.reverse_eq_nil_iff, List.dropWhile_eq_nil_iff]
  constructor
  · intro h c hc
    exact h c (List.mem_reverse.2 hc)
  · intro h c hc
    exact h c (List.mem_reverse.1 hc)

/-- What is dropped at the end of a text is all of its end that may be. -/
theorem exists_behind_dropEnd (p : Char → Bool) (text : List Char) :
    ∃ behind, text = dropEnd p text ++ behind ∧ (∀ c ∈ behind, p c = true) ∧
      ∀ c, (dropEnd p text).getLast? = some c → p c = false := by
  refine ⟨text.rtakeWhile p, List.rdropWhile_append_rtakeWhile.symm,
    fun c hc => List.mem_rtakeWhile_imp hc, ?_⟩
  intro c hc
  rw [dropEnd, List.getLast?_reverse] at hc
  have hhead := List.head?_dropWhile_not p text.reverse
  rw [hc] at hhead
  exact hhead

theorem trimChars_eq_nil_iff {text : List Char} :
    trimChars text = [] ↔ ∀ c ∈ text, isBlank c = true := by
  rw [trimChars, dropEnd_eq_nil_iff]
  constructor
  · intro h
    rw [← List.dropWhile_eq_nil_iff]
    cases hrest : text.dropWhile isBlank with
    | nil => rfl
    | cons c rest =>
        have hblank : isBlank c = true := h c (hrest ▸ List.mem_cons_self)
        have hhead := List.head?_dropWhile_not isBlank text
        rw [hrest] at hhead
        have hnot : isBlank c = false := hhead
        rw [hblank] at hnot
        cases hnot
  · intro h c hc
    exact h c ((List.dropWhile_sublist _).subset hc)

theorem dropWhile_of_no_blank {text : List Char} (h : ∀ c ∈ text, isBlank c = false) :
    text.dropWhile isBlank = text := by
  cases text with
  | nil => rfl
  | cons c rest =>
      rw [List.dropWhile_cons_of_neg (by rw [h c List.mem_cons_self]; exact Bool.false_ne_true)]

/-- Nothing is trimmed off a text without blanks. -/
theorem trimChars_of_no_blank {text : List Char} (h : ∀ c ∈ text, isBlank c = false) :
    trimChars text = text := by
  rw [trimChars, dropEnd, dropWhile_of_no_blank h,
    dropWhile_of_no_blank fun c hc => h c (List.mem_reverse.1 hc), List.reverse_reverse]

/-- What is trimmed off are blanks. -/
theorem exists_around_trimChars (text : List Char) :
    ∃ before behind, text = before ++ trimChars text ++ behind ∧
      (∀ c ∈ before, isBlank c = true) ∧ ∀ c ∈ behind, isBlank c = true := by
  refine ⟨text.takeWhile isBlank, (text.dropWhile isBlank).rtakeWhile isBlank, ?_,
    fun c hc => List.mem_takeWhile_imp hc, fun c hc => List.mem_rtakeWhile_imp hc⟩
  calc text
    _ = text.takeWhile isBlank ++ text.dropWhile isBlank := List.takeWhile_append_dropWhile.symm
    _ = text.takeWhile isBlank ++
          (trimChars text ++ (text.dropWhile isBlank).rtakeWhile isBlank) :=
        congrArg _ List.rdropWhile_append_rtakeWhile.symm
    _ = _ := (List.append_assoc ..).symm

/-- Blanks around a text without blanks are trimmed off. -/
theorem trimChars_append {before text behind : List Char} (hne : text ≠ [])
    (h : ∀ c ∈ text, isBlank c = false) (hbefore : ∀ c ∈ before, isBlank c = true)
    (hbehind : ∀ c ∈ behind, isBlank c = true) :
    trimChars (before ++ text ++ behind) = text := by
  have hfront : (before ++ text ++ behind).dropWhile isBlank = text ++ behind := by
    obtain ⟨c, rest, rfl⟩ := List.exists_cons_of_ne_nil hne
    rw [List.append_assoc, List.dropWhile_append_of_pos hbefore, List.cons_append,
      List.dropWhile_cons_of_neg (by rw [h c List.mem_cons_self]; exact Bool.false_ne_true)]
  rw [trimChars, hfront, dropEnd, List.reverse_append,
    List.dropWhile_append_of_pos fun c hc => hbehind c (List.mem_reverse.1 hc),
    dropWhile_of_no_blank fun c hc => h c (List.mem_reverse.1 hc), List.reverse_reverse]

/-- What is trimmed has no blanks at its ends. -/
theorem trimChars_trimChars (text : List Char) : trimChars (trimChars text) = trimChars text := by
  have hfront : (trimChars text).dropWhile isBlank = trimChars text := by
    cases htrim : trimChars text with
    | nil => rfl
    | cons c rest =>
        have hprefix : trimChars text <+: text.dropWhile isBlank :=
          List.rdropWhile_prefix isBlank (text.dropWhile isBlank)
        obtain ⟨behind, hbehind⟩ := hprefix
        have hhead := List.head?_dropWhile_not isBlank text
        rw [← hbehind, htrim] at hhead
        have hnot : isBlank c = false := hhead
        rw [List.dropWhile_cons_of_neg (by rw [hnot]; exact Bool.false_ne_true)]
  rw [trimChars, hfront]
  exact List.rdropWhile_idempotent isBlank (text.dropWhile isBlank)

/-- The characters of a decimal number lie between the minus sign and the nine. -/
theorem range_of_mem_writeInt {value : Int} {c : Char} (h : c ∈ writeInt value) :
    0x2d ≤ c.toNat ∧ c.toNat ≤ 0x39 := by
  have hdigit : ∀ n : Nat, c ∈ writeNat n → 0x2d ≤ c.toNat ∧ c.toNat ≤ 0x39 := by
    intro n hc
    have hd := isDigit_of_mem_writeNat hc
    rw [Char.isDigit, Bool.and_eq_true, decide_eq_true_eq, decide_eq_true_eq] at hd
    have hlow : 48 ≤ c.toNat := hd.1
    have hhigh : c.toNat ≤ 57 := hd.2
    omega
  cases value with
  | ofNat n => exact hdigit n h
  | negSucc n =>
      rcases List.mem_cons.1 h with rfl | h
      · decide
      · exact hdigit (n + 1) h

/-- No visible character of ASCII is blank. -/
theorem isBlank_of_visible {c : Char} (h : 0x21 ≤ c.toNat ∧ c.toNat ≤ 0x7e) :
    isBlank c = false := by
  have hval : c.val.toNat = c.toNat := rfl
  unfold isBlank
  simp only [Bool.or_eq_false_iff, Bool.and_eq_false_iff, decide_eq_false_iff_not,
    beq_eq_false_iff_ne, UInt32.le_iff_toNat_le, ne_eq, ← UInt32.toNat_inj, hval]
  simp only [UInt32.reduceToNat]
  omega

theorem trim_ofInt64 (value : Int64) : trim (ofInt64 value) = ofInt64 value := by
  rw [trim, ofInt64, String.toList_ofList, trimChars_of_no_blank]
  intro c hc
  have hrange := range_of_mem_writeInt hc
  exact isBlank_of_visible ⟨by omega, by omega⟩

end FoodOrdering.Text
