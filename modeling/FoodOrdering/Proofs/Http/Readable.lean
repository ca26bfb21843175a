import FoodOrdering.Http.Headers
import FoodOrdering.Proofs.Text.Utf8

/-!
# Readable values

A value can be read exactly when it is the UTF-8 form of a text of visible ASCII and tabs, and
what is read is that text.  Many more texts can be written into a value, all those without control
characters of ASCII other than tabs; but of these nobody reads back one that goes beyond ASCII.
-/

namespace FoodOrdering

namespace Http

/-- Visible ASCII, or a tab. -/
def IsPlainChar (c : Char) : Prop :=
  (0x20 ≤ c.toNat ∧ c.toNat ≤ 0x7e) ∨ c = '\t'

/-- All characters are visible ASCII or tabs. -/
def IsPlain (text : String) : Prop :=
  ∀ c ∈ text.toList, IsPlainChar c

instance (c : Char) : Decidable (IsPlainChar c) :=
  inferInstanceAs (Decidable (_ ∨ _))

instance (text : String) : Decidable (IsPlain text) :=
  decidable_of_iff (text.toList.all fun c => decide (IsPlainChar c)) (by simp [IsPlain])

theorem isPlain_append {first second : String} :
    IsPlain (first ++ second) ↔ IsPlain first ∧ IsPlain second := by
  rw [IsPlain, String.toList_append]
  exact List.forall_mem_append

theorem IsPlainChar.toNat_lt {c : Char} (h : IsPlainChar c) : c.toNat < 0x80 := by
  rcases h with h | rfl
  · omega
  · decide

theorem isVisible_iff {byte : UInt8} :
    isVisible byte = true ↔ (0x20 ≤ byte.toNat ∧ byte.toNat ≤ 0x7e) ∨ byte.toNat = 9 := by
  simp [isVisible, UInt8.le_iff_toNat_le, ← UInt8.toNat_inj]

theorem isVisible_ofNat {c : Char} (h : IsPlainChar c) :
    isVisible (UInt8.ofNat c.toNat) = true := by
  have hlt := h.toNat_lt
  rw [isVisible_iff, UInt8.toNat_ofNat_of_lt' (Nat.lt_trans hlt (by decide))]
  rcases h with h | rfl
  · exact Or.inl h
  · exact Or.inr rfl

theorem toNat_charOfByte (byte : UInt8) : (Char.ofNat byte.toNat).toNat = byte.toNat := by
  have hlt := byte.toNat_lt
  have hvalid : byte.toNat.isValidChar := Or.inl (by omega)
  rw [Char.ofNat, dif_pos hvalid]
  rfl

theorem isPlainChar_charOfByte {byte : UInt8} (h : isVisible byte = true) :
    IsPlainChar (Char.ofNat byte.toNat) := by
  rcases isVisible_iff.1 h with hrange | htab
  · left
    rwa [toNat_charOfByte]
  · right
    rw [htab]

theorem isPlain_of_all_isVisible {value : List UInt8} (h : value.all isVisible = true) :
    IsPlain (String.ofList (value.map fun byte => Char.ofNat byte.toNat)) := by
  intro c hc
  rw [String.toList_ofList] at hc
  obtain ⟨byte, hbyte, rfl⟩ := List.mem_map.1 hc
  exact isPlainChar_charOfByte (List.all_eq_true.1 h byte hbyte)

theorem utf8_of_textOf? {value : List UInt8} {text : String} (h : textOf? value = some text) :
    value = Text.utf8 text ∧ IsPlain text := by
  unfold textOf? at h
  split at h
  next hall =>
    cases h
    have hplain := isPlain_of_all_isVisible hall
    refine ⟨?_, hplain⟩
    rw [Text.utf8_ofList, Text.flatMap_utf8EncodeChar_of_ascii, List.map_map]
    · symm
      apply List.map_id''
      intro byte
      show UInt8.ofNat (Char.ofNat byte.toNat).toNat = byte
      rw [toNat_charOfByte, UInt8.ofNat_toNat]
    · intro c hc
      exact (hplain c (by rwa [String.toList_ofList])).toNat_lt
  next => cases h

theorem utf8_of_isPlain {text : String} (h : IsPlain text) :
    Text.utf8 text = text.toList.map fun c => UInt8.ofNat c.toNat := by
  rw [Text.utf8_eq_flatMap]
  exact Text.flatMap_utf8EncodeChar_of_ascii fun c hc => (h c hc).toNat_lt

theorem all_isVisible_utf8 {text : String} (h : IsPlain text) :
    (Text.utf8 text).all isVisible = true := by
  rw [utf8_of_isPlain h, List.all_map, List.all_eq_true]
  exact fun c hc => isVisible_ofNat (h c hc)

theorem textOf?_utf8 {text : String} (h : IsPlain text) :
    textOf? (Text.utf8 text) = some text := by
  rw [textOf?, if_pos (all_isVisible_utf8 h), utf8_of_isPlain h, List.map_map]
  conv => rhs; rw [← String.ofList_toList (s := text)]
  congr 2
  conv => rhs; rw [← List.map_id text.toList]
  apply List.map_congr_left
  intro c hc
  have hlt := (h c hc).toNat_lt
  show Char.ofNat (UInt8.ofNat c.toNat).toNat = c
  rw [UInt8.toNat_ofNat_of_lt' (Nat.lt_trans hlt (by decide)), Char.ofNat_toNat]

/-- What is read is the text whose UTF-8 form the value is. -/
theorem textOf?_eq_some_iff {value : List UInt8} {text : String} :
    textOf? value = some text ↔ value = Text.utf8 text ∧ IsPlain text := by
  constructor
  · exact utf8_of_textOf?
  · rintro ⟨rfl, hplain⟩
    exact textOf?_utf8 hplain

/-- Of all texts that can be written only a plain one is read back. -/
theorem textOf?_utf8_eq_some_iff {written text : String} :
    textOf? (Text.utf8 written) = some text ↔ text = written ∧ IsPlain written := by
  rw [textOf?_eq_some_iff]
  constructor
  · rintro ⟨hsame, hplain⟩
    cases Text.utf8_injective hsame
    exact ⟨rfl, hplain⟩
  · rintro ⟨rfl, hplain⟩
    exact ⟨rfl, hplain⟩

/-! ## What can be written -/

/-- No control character of ASCII, or a tab. -/
def IsWritableChar (c : Char) : Prop :=
  (0x20 ≤ c.toNat ∧ c.toNat ≠ 0x7f) ∨ c = '\t'

/-- There are no control characters of ASCII but tabs. -/
def IsWritable (text : String) : Prop :=
  ∀ c ∈ text.toList, IsWritableChar c

instance (c : Char) : Decidable (IsWritableChar c) :=
  inferInstanceAs (Decidable (_ ∨ _))

instance (text : String) : Decidable (IsWritable text) :=
  decidable_of_iff (text.toList.all fun c => decide (IsWritableChar c)) (by simp [IsWritable])

theorem isLegal_iff {byte : UInt8} :
    isLegal byte = true ↔ (0x20 ≤ byte.toNat ∧ byte.toNat ≠ 0x7f) ∨ byte.toNat = 9 := by
  simp [isLegal, UInt8.le_iff_toNat_le, ← UInt8.toNat_inj]

/-- A character is written with legal bytes, or it is no character for a value. -/
theorem all_isLegal_utf8EncodeChar_iff {c : Char} :
    (String.utf8EncodeChar c).all isLegal = true ↔ IsWritableChar c := by
  rcases Nat.lt_or_ge c.toNat 0x80 with hascii | hbeyond
  · have hbyte : (UInt8.ofNat c.toNat).toNat = c.toNat :=
      UInt8.toNat_ofNat_of_lt' (Nat.lt_trans hascii (by decide))
    have htab : c.toNat = 9 ↔ c = '\t' := Char.toNat_inj (d := '\t')
    rw [Text.utf8EncodeChar_of_ascii hascii, List.all_cons, List.all_nil, Bool.and_true,
      isLegal_iff, hbyte, htab]
    exact Iff.rfl
  · refine iff_of_true (List.all_eq_true.2 fun byte hbyte => isLegal_iff.2 ?_) ?_
    · have hhigh := Text.le_of_mem_utf8EncodeChar hbeyond hbyte
      omega
    · left
      omega

theorem valueOf?_eq_some_iff {text : String} {value : List UInt8} :
    valueOf? text = some value ↔ IsWritable text ∧ value = Text.utf8 text := by
  have hlegal : (Text.utf8 text).all isLegal = true ↔ IsWritable text := by
    rw [Text.utf8_eq_flatMap, List.all_flatMap, List.all_eq_true]
    exact forall₂_congr fun c _ => all_isLegal_utf8EncodeChar_iff
  unfold valueOf?
  dsimp only
  split
  next hall =>
    rw [Option.some_inj, eq_comm]
    exact (and_iff_right (hlegal.1 hall)).symm
  next hall => exact iff_of_false nofun fun h => hall (hlegal.2 h.1)

theorem isPlainChar_iff {c : Char} : IsPlainChar c ↔ IsWritableChar c ∧ c.toNat < 0x80 := by
  unfold IsPlainChar IsWritableChar
  constructor
  · rintro (hrange | rfl)
    · exact ⟨Or.inl (by omega), by omega⟩
    · exact ⟨Or.inr rfl, by decide⟩
  · rintro ⟨hrange | rfl, hascii⟩
    · left
      omega
    · exact Or.inr rfl

/-- Of what can be written only ASCII can be read. -/
theorem isPlain_iff_isWritable {text : String} :
    IsPlain text ↔ IsWritable text ∧ ∀ c ∈ text.toList, c.toNat < 0x80 := by
  simp only [IsPlain, IsWritable, isPlainChar_iff, forall_and]

theorem valueOf?_of_isPlain {text : String} (h : IsPlain text) :
    valueOf? text = some (Text.utf8 text) :=
  valueOf?_eq_some_iff.2 ⟨(isPlain_iff_isWritable.1 h).1, rfl⟩

end Http

end FoodOrdering
