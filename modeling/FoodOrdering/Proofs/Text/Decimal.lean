import FoodOrdering.Text.Decimal
import Mathlib.Data.List.TakeWhile
import Mathlib.Data.Nat.Bitwise
import Mathlib.Logic.Function.Basic

/-!
# Decimal numbers read back

A number is written with digits only, the first of them no zero unless it is the only one, and no
two numbers are written alike.  What is read as a number below a bound, or as a positive word, is
digits, with an optional plus sign in front, that denote a number in this range.
-/

namespace FoodOrdering.Text

theorem range_of_isDigit {c : Char} (h : c.isDigit = true) : 48 ≤ c.toNat ∧ c.toNat ≤ 57 := by
  rw [Char.isDigit, Bool.and_eq_true, decide_eq_true_eq, decide_eq_true_eq] at h
  exact h

/-- Only zero is written with a zero in front. -/
theorem head?_writeNat_ne {value : Nat} (h : 0 < value) : (writeNat value).head? ≠ some '0' := by
  induction value using Nat.strongRecOn with
  | ind value ih =>
      rw [writeNat, Nat.toDigits_eq_if (by decide)]
      split
      next hlt =>
        have hdigit : ∀ digit < 10, 0 < digit → [Nat.digitChar digit].head? ≠ some '0' := by
          decide
        exact hdigit value hlt h
      next hge =>
        have hmore := ih (value / 10) (by omega) (by omega)
        rw [writeNat] at hmore
        cases hfirst : Nat.toDigits 10 (value / 10) with
        | nil => exact absurd hfirst Nat.toDigits_ne_nil
        | cons c rest =>
            rw [hfirst] at hmore
            exact hmore

theorem length_writeNat_le {value : Nat} (h : value ≤ UInt64.size) :
    (writeNat value).length ≤ 20 :=
  (Nat.length_toDigits_le_iff (by decide) (by decide)).2 (Nat.lt_of_le_of_lt h (by decide))

theorem ofDigitChars_writeNat (value : Nat) : Nat.ofDigitChars 10 (writeNat value) 0 = value := by
  simp [writeNat]

theorem writeNat_injective : Function.Injective writeNat := by
  intro first second heq
  rw [← ofDigitChars_writeNat first, heq, ofDigitChars_writeNat]

theorem ofInt64_injective : Function.Injective ofInt64 := by
  intro first second heq
  have hread := readInt64?_ofInt64 first
  rw [heq, readInt64?_ofInt64] at hread
  exact (Option.some.inj hread).symm

/-- No digit comes next. -/
def EndsDigits (rest : List Char) : Prop :=
  ∀ c, rest.head? = some c → c.isDigit = false

theorem takeWhile_writeNat (value : Nat) {rest : List Char} (h : EndsDigits rest) :
    (writeNat value ++ rest).takeWhile Char.isDigit = writeNat value := by
  rw [List.takeWhile_append_of_pos fun c hc => isDigit_of_mem_writeNat hc]
  cases rest with
  | nil => exact List.append_nil _
  | cons c tail =>
      rw [List.takeWhile_cons_of_neg (by rw [h c rfl]; exact Bool.false_ne_true), List.append_nil]

theorem dropWhile_writeNat (value : Nat) {rest : List Char} (h : EndsDigits rest) :
    (writeNat value ++ rest).dropWhile Char.isDigit = rest := by
  rw [List.dropWhile_append_of_pos fun c hc => isDigit_of_mem_writeNat hc]
  cases rest with
  | nil => rfl
  | cons c tail =>
      rw [List.dropWhile_cons_of_neg (by rw [h c rfl]; exact Bool.false_ne_true)]

/-! ## Numbers below a bound -/

/-- Digits, with an optional plus sign in front, that denote a number. -/
def IsNumeral (text : String) (value : Nat) : Prop :=
  ∃ digits, (text.toList = digits ∨ text.toList = '+' :: digits) ∧ digits ≠ [] ∧
    (∀ c ∈ digits, c.isDigit = true) ∧ Nat.ofDigitChars 10 digits 0 = value

theorem readNat?_eq_some_iff {digits : List Char} {value : Nat} :
    readNat? digits = some value ↔
      digits ≠ [] ∧ (∀ c ∈ digits, c.isDigit = true) ∧ Nat.ofDigitChars 10 digits 0 = value := by
  unfold readNat?
  rw [← List.all_eq_true]
  cases digits with
  | nil => exact iff_of_false nofun fun h => h.1 rfl
  | cons c rest =>
      rw [if_neg (by exact Bool.false_ne_true)]
      split
      next hdigits =>
        rw [Option.some_inj]
        exact ⟨fun h => ⟨List.cons_ne_nil c rest, hdigits, h⟩, fun h => h.2.2⟩
      next hdigits => exact iff_of_false nofun fun h => hdigits h.2.1

theorem isNumeral_iff_of_plus {text : String} {digits : List Char} {value : Nat}
    (h : text.toList = '+' :: digits) : IsNumeral text value ↔ readNat? digits = some value := by
  rw [readNat?_eq_some_iff]
  constructor
  · rintro ⟨others, hothers | hothers, hdigits⟩
    · rw [h] at hothers
      subst hothers
      exact absurd (hdigits.2.1 '+' List.mem_cons_self) (by decide)
    · rw [h] at hothers
      cases hothers
      exact hdigits
  · exact fun hdigits => ⟨digits, Or.inr h, hdigits⟩

theorem isNumeral_iff_of_no_plus {text : String} {value : Nat}
    (h : ∀ digits, text.toList ≠ '+' :: digits) :
    IsNumeral text value ↔ readNat? text.toList = some value := by
  rw [readNat?_eq_some_iff]
  constructor
  · rintro ⟨others, hothers | hothers, hdigits⟩
    · exact hothers ▸ hdigits
    · exact absurd hothers (h others)
  · exact fun hdigits => ⟨text.toList, Or.inl rfl, hdigits⟩

theorem readBelow?_eq_some_iff {bound : Nat} {text : String} {value : Nat} :
    readBelow? bound text = some value ↔ IsNumeral text value ∧ value < bound := by
  unfold readBelow?
  dsimp only
  rw [Option.filter_eq_some_iff, decide_eq_true_eq]
  split
  next digits htext => rw [isNumeral_iff_of_plus htext]
  next digits hplus => rw [isNumeral_iff_of_no_plus hplus]

/-! ## Positive words -/

theorem readInt?_eq_some_iff_of_pos {text : String} {value : Nat} (h : 0 < value) :
    readInt? text.toList = some (value : Int) ↔ IsNumeral text value := by
  have hcast : ∀ digits : List Char,
      (readNat? digits).map Int.ofNat = some (value : Int) ↔ readNat? digits = some value := by
    intro digits
    rw [Option.map_eq_some_iff]
    constructor
    · rintro ⟨number, hnumber, heq⟩
      rw [hnumber, Int.ofNat.inj heq]
    · exact fun hread => ⟨value, hread, rfl⟩
  unfold readInt?
  split
  next digits htext => rw [isNumeral_iff_of_plus htext, hcast]
  next digits htext =>
    -- Behind a minus sign stands no positive number, and the sign itself is no digit.
    refine iff_of_false ?_ ?_
    · rw [Option.map_eq_some_iff]
      rintro ⟨number, hnumber, heq⟩
      obtain ⟨size, -, hsize⟩ := Option.bind_eq_some_iff.1 hnumber
      obtain rfl := Option.some.inj hsize
      have hneg : -(size : Int) = value := heq
      omega
    · have hplus : ∀ others, text.toList ≠ '+' :: others := by
        intro others hothers
        rw [htext] at hothers
        cases hothers
      rw [isNumeral_iff_of_no_plus hplus, readNat?_eq_some_iff, htext]
      exact fun hdigits => absurd (hdigits.2.1 '-' List.mem_cons_self) (by decide)
  next hplus _ => rw [isNumeral_iff_of_no_plus hplus, hcast]

/-- A positive word is read from the numerals of the numbers from 1 to 2^63 - 1. -/
theorem readInt64?_eq_some_and_pos_iff {text : String} {word : Int64} :
    readInt64? text = some word ∧ 0 < word ↔
      ∃ value, IsNumeral text value ∧ 1 ≤ value ∧ value ≤ 2 ^ 63 - 1 ∧ word.toInt = value := by
  have hpos : 0 < word ↔ 0 < word.toInt := Int64.lt_iff_toInt_lt
  have hmax : word.toInt ≤ 2 ^ 63 - 1 := word.toInt_le
  rw [readInt64?, Option.bind_eq_some_iff, hpos]
  constructor
  · rintro ⟨⟨number, hread, hword⟩, hlt⟩
    obtain rfl := toInt_of_int64OfInt? hword
    obtain ⟨value, hvalue⟩ := Int.eq_ofNat_of_zero_le (Int.le_of_lt hlt)
    rw [hvalue] at hread
    exact ⟨value, (readInt?_eq_some_iff_of_pos (by omega)).1 hread, by omega, by omega, hvalue⟩
  · rintro ⟨value, hnumeral, hone, -, hvalue⟩
    refine ⟨⟨value, (readInt?_eq_some_iff_of_pos hone).2 hnumeral, ?_⟩, by omega⟩
    rw [← hvalue]
    exact int64OfInt?_toInt word

end FoodOrdering.Text
