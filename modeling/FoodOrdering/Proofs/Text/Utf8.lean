import FoodOrdering.Text.Utf8

/-!
# Bytes of characters

The UTF-8 form of a text is made character by character, and of ASCII it is one byte for each.
-/

namespace FoodOrdering.Text

theorem utf8_ofList (text : List Char) :
    utf8 (String.ofList text) = text.flatMap String.utf8EncodeChar := by
  simp [utf8, List.utf8Encode]

theorem utf8_eq_flatMap (text : String) :
    utf8 text = text.toList.flatMap String.utf8EncodeChar := by
  conv => lhs; rw [← String.ofList_toList (s := text)]
  exact utf8_ofList text.toList

theorem utf8EncodeChar_of_ascii {c : Char} (h : c.toNat < 0x80) :
    String.utf8EncodeChar c = [UInt8.ofNat c.toNat] := by
  have hle : c.val.toNat ≤ 0x7f := Nat.le_of_lt_succ h
  unfold String.utf8EncodeChar
  exact if_pos hle

/-- ASCII is written with one byte for each character. -/
theorem flatMap_utf8EncodeChar_of_ascii {text : List Char} (h : ∀ c ∈ text, c.toNat < 0x80) :
    text.flatMap String.utf8EncodeChar = text.map fun c => UInt8.ofNat c.toNat := by
  induction text with
  | nil => rfl
  | cons c rest ih =>
      rw [List.flatMap_cons, utf8EncodeChar_of_ascii (h c List.mem_cons_self),
        ih fun d hd => h d (List.mem_cons_of_mem c hd)]
      rfl

/-- Beyond ASCII every byte of a character has its highest bit set. -/
theorem le_of_mem_utf8EncodeChar {c : Char} (h : 0x80 ≤ c.toNat) {byte : UInt8}
    (hbyte : byte ∈ String.utf8EncodeChar c) : 0x80 ≤ byte.toNat := by
  have hascii : ¬ c.val.toNat ≤ 0x7f := Nat.not_le_of_lt h
  unfold String.utf8EncodeChar at hbyte
  dsimp only at hbyte
  rw [if_neg hascii] at hbyte
  repeat' split at hbyte
  all_goals
    simp only [List.mem_cons, List.not_mem_nil, or_false] at hbyte
    rcases hbyte with rfl | rfl | rfl | rfl <;> rw [UInt8.toNat_ofNat'] <;> omega

/-- The UTF-8 form of some characters. -/
def charBytes (text : List Char) : List UInt8 :=
  text.flatMap String.utf8EncodeChar

theorem charBytes_append (first second : List Char) :
    charBytes (first ++ second) = charBytes first ++ charBytes second :=
  List.flatMap_append

theorem charBytes_cons (c : Char) (text : List Char) :
    charBytes (c :: text) = String.utf8EncodeChar c ++ charBytes text :=
  rfl

theorem utf8_of_ofUtf8? {bytes : List UInt8} {text : String} (h : ofUtf8? bytes = some text) :
    utf8 text = bytes := by
  unfold ofUtf8? String.fromUTF8? at h
  split at h
  next hvalid =>
    cases h
    simp [utf8, String.fromUTF8]
  next => cases h

end FoodOrdering.Text
