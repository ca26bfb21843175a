import FoodOrdering.Json.Reader.Skip
import FoodOrdering.Proofs.Json.Number

/-!
# Texts read back

A text is written character by character, and what is written for a character stands for its bytes,
whatever is read before and behind it.  A reader that skips the text passes over the same bytes.
-/

namespace FoodOrdering.Json

open Text Reading

namespace Reader

/-- Bytes inside quotation marks that stand for other bytes. -/
structure Stands (written meant : List UInt8) : Prop where
  read : ∀ whole before rest h, ∃ h',
    textBytes whole before (written ++ rest) h = textBytes whole (meant.reverse ++ before) rest h'
  skip : ∀ whole rest h, ∃ h',
    skipTextBytes whole (written ++ rest) h = skipTextBytes whole rest h'

theorem Stands.nil : Stands [] [] :=
  ⟨fun _ _ _ h => ⟨h, rfl⟩, fun _ _ h => ⟨h, rfl⟩⟩

theorem Stands.append {written meant others behind : List UInt8} (hfirst : Stands written meant)
    (hnext : Stands others behind) : Stands (written ++ others) (meant ++ behind) := by
  constructor
  · intro whole before rest h
    obtain ⟨hmiddle, hread⟩ := hfirst.read whole before (others ++ rest) (by simpa using h)
    obtain ⟨hlast, hmore⟩ := hnext.read whole (meant.reverse ++ before) rest hmiddle
    refine ⟨hlast, ?_⟩
    simp only [List.append_assoc, List.reverse_append]
    exact hread.trans hmore
  · intro whole rest h
    obtain ⟨hmiddle, hskip⟩ := hfirst.skip whole (others ++ rest) (by simpa using h)
    obtain ⟨hlast, hmore⟩ := hnext.skip whole rest hmiddle
    refine ⟨hlast, ?_⟩
    simp only [List.append_assoc]
    exact hskip.trans hmore

/-- A byte that is no mark, no backslash and no control character. -/
def IsPlainByte (byte : UInt8) : Prop :=
  byte ≠ 0x22 ∧ byte ≠ 0x5c ∧ ¬ byte < 0x20

theorem IsPlainByte.stands {byte : UInt8} (h : IsPlainByte byte) : Stands [byte] [byte] := by
  obtain ⟨hmark, hslash, hcontrol⟩ := h
  constructor
  · intro whole before rest hle
    refine ⟨Nat.le_of_lt hle, ?_⟩
    show textBytes whole before (byte :: rest) hle = _
    rw [textBytes, if_neg hmark, if_neg hslash, if_neg hcontrol]
    rfl
  · intro whole rest hle
    refine ⟨Nat.le_of_lt hle, ?_⟩
    show skipTextBytes whole (byte :: rest) hle = _
    rw [skipTextBytes, if_neg hmark, if_neg hslash, if_neg hcontrol]

theorem stands_plain {bytes : List UInt8} (h : ∀ byte ∈ bytes, IsPlainByte byte) :
    Stands bytes bytes := by
  induction bytes with
  | nil => exact Stands.nil
  | cons byte rest ih =>
      exact (h byte List.mem_cons_self).stands.append
        (ih fun other hother => h other (List.mem_cons_of_mem byte hother))

/-- An escape behind a backslash. -/
theorem stands_escape {written meant : List UInt8}
    (hread : ∀ rest, Gives escape (written ++ rest) (.ok meant) rest)
    (hskip : ∀ rest, Gives skipEscape (written ++ rest) (.ok ()) rest) :
    Stands (0x5c :: written) meant := by
  constructor
  · intro whole before rest hle
    obtain ⟨hlength, hescape⟩ := (hread rest).exists_eq
    have hless : (written ++ rest).length < whole.length := hle
    refine ⟨by omega, ?_⟩
    show textBytes whole before (0x5c :: (written ++ rest)) hle = _
    rw [textBytes, if_neg (by decide), if_pos rfl, hescape]
  · intro whole rest hle
    obtain ⟨hlength, hescape⟩ := (hskip rest).exists_eq
    have hless : (written ++ rest).length < whole.length := hle
    refine ⟨by omega, ?_⟩
    show skipTextBytes whole (0x5c :: (written ++ rest)) hle = _
    rw [skipTextBytes, if_neg (by decide), if_pos rfl, hescape]

/-! ## Escapes -/

theorem stands_simpleEscape {mark meant : UInt8} (h : simpleEscape? mark = some meant) :
    Stands [0x5c, mark] [meant] := by
  apply stands_escape
  · intro rest
    refine (gives_next mark rest).bind ?_
    dsimp only
    rw [h]
    exact gives_done [meant] rest
  · intro rest
    refine (gives_next mark rest).bind ?_
    dsimp only
    rw [if_pos (by rw [h]; rfl)]
    exact gives_done () rest

/-- A hexadecimal digit, as a byte. -/
def hexByte (value : Nat) : UInt8 :=
  UInt8.ofNat (hexDigit value).toNat

theorem gives_fourHex_of_control {code : Nat} (h : code < 0x20) (rest : List UInt8) :
    Gives fourHex (0x30 :: 0x30 :: hexByte (code / 16) :: hexByte code :: rest) (.ok code)
      rest := by
  have hdigits : ∀ code < 0x20, hexValue? (hexByte (code / 16)) = some (code / 16) ∧
      hexValue? (hexByte code) = some (code % 16) := by decide
  obtain ⟨hhigh, hlow⟩ := hdigits code h
  refine ⟨?_, rfl⟩
  have hzero : hexValue? 0x30 = some 0 := rfl
  simp only [fourHex, hzero, hhigh, hlow, Option.bind_eq_bind, Option.bind_some, Option.pure_def]
  congr 1
  omega

theorem stands_controlEscape {c : Char} (h : c.toNat < 0x20) :
    Stands [0x5c, 0x75, 0x30, 0x30, hexByte (c.toNat / 16), hexByte c.toNat]
      (String.utf8EncodeChar c) := by
  apply stands_escape
  · intro rest
    refine (gives_next 0x75 _).bind ((gives_fourHex_of_control h rest).bind ?_)
    have htrailing : isTrailingSurrogate c.toNat = false := by
      rw [isTrailingSurrogate, Bool.and_eq_false_iff, decide_eq_false_iff_not]
      omega
    have hleading : isLeadingSurrogate c.toNat = false := by
      rw [isLeadingSurrogate, Bool.and_eq_false_iff, decide_eq_false_iff_not]
      omega
    simp only [htrailing, hleading, Char.ofNat_toNat]
    exact gives_done (String.utf8EncodeChar c) rest
  · intro rest
    exact (gives_next 0x75 _).bind ((gives_fourHex_of_control h rest).bind (gives_done () rest))

theorem isPlainByte_of_mem_utf8EncodeChar {c : Char} (hmark : c ≠ '"') (hslash : c ≠ '\\')
    (hcontrol : 0x20 ≤ c.toNat) {byte : UInt8} (h : byte ∈ String.utf8EncodeChar c) :
    IsPlainByte byte := by
  have hbyte : 0x20 ≤ byte.toNat ∧ (byte.toNat < 0x80 → byte.toNat = c.toNat) := by
    by_cases hascii : c.toNat < 0x80
    · rw [utf8EncodeChar_of_ascii hascii, List.mem_singleton] at h
      have hsize : c.toNat < 256 := by omega
      rw [h, UInt8.toNat_ofNat_of_lt' hsize]
      exact ⟨hcontrol, fun _ => rfl⟩
    · have := le_of_mem_utf8EncodeChar (Nat.le_of_not_lt hascii) h
      omega
  have hc : ∀ other : Char, c ≠ other → c.toNat ≠ other.toNat :=
    fun other hne heq => hne (Char.toNat_inj.1 heq)
  refine ⟨?_, ?_, ?_⟩
  · rintro rfl
    exact hc '"' hmark (hbyte.2 (by decide)).symm
  · rintro rfl
    exact hc '\\' hslash (hbyte.2 (by decide)).symm
  · rw [UInt8.lt_iff_toNat_lt]
    exact Nat.not_lt_of_le hbyte.1

theorem utf8EncodeChar_hexDigit (value : Nat) :
    String.utf8EncodeChar (hexDigit value) = [hexByte value] := by
  have hascii : ∀ digit < 16, (Nat.digitChar digit).toNat < 0x80 := by decide
  exact utf8EncodeChar_of_ascii (hascii (value % 16) (Nat.mod_lt value (by decide)))

theorem charBytes_controlEscape (high low : Nat) :
    charBytes ['\\', 'u', '0', '0', hexDigit high, hexDigit low] =
      [0x5c, 0x75, 0x30, 0x30, hexByte high, hexByte low] := by
  have hlast : charBytes [hexDigit high, hexDigit low] = [hexByte high, hexByte low] := by
    rw [charBytes_cons, charBytes_cons, utf8EncodeChar_hexDigit, utf8EncodeChar_hexDigit]
    rfl
  exact congrArg (fun digits => 0x5c :: 0x75 :: 0x30 :: 0x30 :: digits) hlast

/-- Every character stands for itself in the form in which it is written. -/
theorem stands_escapeChar (c : Char) :
    Stands (charBytes (escapeChar c)) (String.utf8EncodeChar c) := by
  have hletter : ∀ {letter code : Char} {mark meant : UInt8}, c = code →
      charBytes ['\\', letter] = [0x5c, mark] → String.utf8EncodeChar code = [meant] →
      simpleEscape? mark = some meant →
      Stands (charBytes ['\\', letter]) (String.utf8EncodeChar c) := by
    rintro letter code mark meant rfl hwritten hmeant hescape
    rw [hwritten, hmeant]
    exact stands_simpleEscape hescape
  unfold escapeChar
  by_cases hmark : c = '"'
  · rw [if_pos hmark]
    exact hletter hmark rfl rfl rfl
  rw [if_neg hmark]
  by_cases hslash : c = '\\'
  · rw [if_pos hslash]
    exact hletter hslash rfl rfl rfl
  rw [if_neg hslash]
  by_cases hback : c.val = 0x08
  · rw [if_pos hback]
    exact @hletter 'b' '\x08' _ _ (Char.ext hback) rfl rfl rfl
  rw [if_neg hback]
  by_cases htab : c.val = 0x09
  · rw [if_pos htab]
    exact @hletter 't' '\t' _ _ (Char.ext htab) rfl rfl rfl
  rw [if_neg htab]
  by_cases hline : c.val = 0x0a
  · rw [if_pos hline]
    exact @hletter 'n' '\n' _ _ (Char.ext hline) rfl rfl rfl
  rw [if_neg hline]
  by_cases hpage : c.val = 0x0c
  · rw [if_pos hpage]
    exact @hletter 'f' '\x0c' _ _ (Char.ext hpage) rfl rfl rfl
  rw [if_neg hpage]
  by_cases hreturn : c.val = 0x0d
  · rw [if_pos hreturn]
    exact @hletter 'r' '\r' _ _ (Char.ext hreturn) rfl rfl rfl
  rw [if_neg hreturn]
  by_cases hcontrol : c.val < 0x20
  · rw [if_pos hcontrol, charBytes_controlEscape]
    exact stands_controlEscape hcontrol
  · have hcode : 0x20 ≤ c.toNat := Nat.le_of_not_lt hcontrol
    have hsingle : charBytes [c] = String.utf8EncodeChar c := List.append_nil _
    rw [if_neg hcontrol, hsingle]
    exact stands_plain fun byte => isPlainByte_of_mem_utf8EncodeChar hmark hslash hcode

theorem stands_escaped (text : List Char) :
    Stands (charBytes (text.flatMap escapeChar)) (charBytes text) := by
  induction text with
  | nil => exact Stands.nil
  | cons c rest ih =>
      rw [List.flatMap_cons, charBytes_append, charBytes_cons]
      exact (stands_escapeChar c).append ih

/-! ## Whole texts -/

theorem charBytes_quoteChars (text : List Char) (rest : List UInt8) :
    charBytes (quoteChars text) ++ rest =
      0x22 :: (charBytes (text.flatMap escapeChar) ++ 0x22 :: rest) := by
  rw [quoteChars, charBytes_cons, charBytes_append, List.append_assoc, List.append_assoc]
  rfl

theorem gives_textBody (value : String) (rest : List UInt8) :
    Gives textBody (charBytes (value.toList.flatMap escapeChar) ++ 0x22 :: rest) (.ok value)
      rest := by
  have hbytes : Gives
      (fun input => textBytes input [] input (Rest.length_le_self input) : Reader (List UInt8))
      (charBytes (value.toList.flatMap escapeChar) ++ 0x22 :: rest) (.ok (utf8 value)) rest := by
    obtain ⟨hle, hread⟩ := (stands_escaped value.toList).read _ [] (0x22 :: rest)
      (Rest.length_le_self _)
    unfold Gives
    dsimp only
    rw [hread, textBytes, if_pos rfl, utf8_eq_flatMap, List.append_nil, List.reverse_reverse]
    exact ⟨rfl, rfl⟩
  refine hbytes.bind ?_
  rw [ofUtf8?_utf8]
  exact gives_done value rest

theorem gives_skipText (value : String) (rest : List UInt8) :
    Gives skipText (charBytes (value.toList.flatMap escapeChar) ++ 0x22 :: rest) (.ok ()) rest := by
  obtain ⟨hle, hskip⟩ := (stands_escaped value.toList).skip _ (0x22 :: rest)
    (Rest.length_le_self _)
  unfold Gives skipText
  rw [hskip, skipTextBytes, if_pos rfl]
  exact ⟨rfl, rfl⟩

/-- A text is read back. -/
theorem reads_text (value : String) : Reads text (.text value) value := by
  intro rest _
  show Gives text (charBytes (quoteChars value.toList) ++ rest) _ _
  rw [charBytes_quoteChars]
  unfold text
  refine (gives_peekToken _ (by decide)).bind ?_
  dsimp only
  rw [if_pos rfl]
  exact (gives_next _ _).bind (gives_textBody value rest)

end Reader

end FoodOrdering.Json
