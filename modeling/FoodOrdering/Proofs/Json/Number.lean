import FoodOrdering.Json.Reader.Shape
import FoodOrdering.Json.Value
import FoodOrdering.Proofs.Reading
import FoodOrdering.Proofs.Text.Decimal
import FoodOrdering.Proofs.Text.Utf8

/-!
# Numbers read back

A whole number of 64 bits is written with digits only, the first of them no zero unless it is the
only one, so that its text is a number in JSON and denotes what was written.
-/

namespace FoodOrdering

namespace Text

theorem charBytes_of_digits {text : List Char} (h : ∀ c ∈ text, c.isDigit = true) :
    charBytes text = text.map fun c => UInt8.ofNat c.toNat := by
  apply flatMap_utf8EncodeChar_of_ascii
  intro c hc
  have := range_of_isDigit (h c hc)
  omega

end Text

namespace Json

open Text Reading

/-- What stands behind a value: a comma or a closing bracket. -/
def Delimited (rest : List UInt8) : Prop :=
  ∃ byte tail, rest = byte :: tail ∧ (byte = 0x2c ∨ byte = 0x5d ∨ byte = 0x7d)

/-- The reader finds this in the written form of a value, and leaves what stands behind it. -/
def Reads {α : Type} (item : Reader α) (value : Json) (found : α) : Prop :=
  ∀ rest, Delimited rest → Gives item (charBytes value.chars ++ rest) (.ok found) rest

namespace Reader

theorem gives_spaces {byte : UInt8} (rest : List UInt8) (h : isSpace byte = false) :
    Gives spaces (byte :: rest) (.ok ()) (byte :: rest) := by
  refine ⟨rfl, ?_⟩
  show List.dropWhile isSpace (byte :: rest) = byte :: rest
  exact List.dropWhile_cons_of_neg (by simp [h])

theorem gives_peekToken {byte : UInt8} (rest : List UInt8) (h : isSpace byte = false) :
    Gives peekToken (byte :: rest) (.ok (some byte)) (byte :: rest) :=
  (gives_spaces rest h).bind (gives_peek byte rest)

/-! ## Digits -/

theorem isDigit_ofNat {c : Char} (h : c.isDigit = true) :
    isDigit (UInt8.ofNat c.toNat) = true := by
  obtain ⟨hlow, hhigh⟩ := range_of_isDigit h
  have hsize : c.toNat < 256 := by omega
  have hbyte : (UInt8.ofNat c.toNat).toNat = c.toNat := UInt8.toNat_ofNat_of_lt' hsize
  simp only [isDigit, Bool.and_eq_true, decide_eq_true_eq, UInt8.le_iff_toNat_le, hbyte]
  exact ⟨hlow, hhigh⟩

theorem charOfByte_ofNat {c : Char} (h : c.isDigit = true) :
    Char.ofNat (UInt8.ofNat c.toNat).toNat = c := by
  obtain ⟨_, hhigh⟩ := range_of_isDigit h
  have hsize : c.toNat < 256 := by omega
  rw [UInt8.toNat_ofNat_of_lt' hsize, Char.ofNat_toNat]

/-- A digit is no minus sign. -/
theorem minus_of_isDigit {c : Char} (h : c.isDigit = true) :
    (UInt8.ofNat c.toNat == 0x2d) = false := by
  rw [beq_eq_false_iff_ne]
  intro heq
  have hdigit := isDigit_ofNat h
  rw [heq] at hdigit
  cases hdigit

/-- A digit is no blank and does not begin any other value. -/
theorem isSpace_of_isDigit {byte : UInt8} (h : isDigit byte = true) : isSpace byte = false := by
  simp only [isDigit, Bool.and_eq_true, decide_eq_true_eq, UInt8.le_iff_toNat_le] at h
  simp only [isSpace, Bool.or_eq_false_iff, beq_eq_false_iff_ne, ne_eq, ← UInt8.toNat_inj]
  simp only [UInt8.reduceToNat] at h ⊢
  omega

/-- A run of digits ends where no digit comes next. -/
theorem gives_digits_of_end {text : List Char} {rest : List UInt8}
    (hdigits : ∀ c ∈ text, c.isDigit = true)
    (hend : ∀ byte, rest.head? = some byte → isDigit byte = false) :
    Gives digits (charBytes text ++ rest) (.ok text) rest := by
  have hrun : Gives (run isDigit : Reader (List UInt8)) (charBytes text ++ rest)
      (.ok (charBytes text)) rest := by
    refine gives_run ?_ hend
    intro byte hbyte
    rw [charBytes_of_digits hdigits] at hbyte
    obtain ⟨c, hc, rfl⟩ := List.mem_map.1 hbyte
    exact isDigit_ofNat (hdigits c hc)
  have hread : (charBytes text).map (fun byte => Char.ofNat byte.toNat) = text := by
    rw [charBytes_of_digits hdigits, List.map_map]
    refine (List.map_congr_left fun c hc => ?_).trans (List.map_id text)
    exact charOfByte_ofNat (hdigits c hc)
  have hdone := gives_done (ε := Fault) ((charBytes text).map fun byte => Char.ofNat byte.toNat) rest
  rw [hread] at hdone
  refine hrun.bind ?_
  rw [hread]
  exact hdone

/-- Behind a value there are no digits. -/
theorem isDigit_of_delimited {rest : List UInt8} (h : Delimited rest) {byte : UInt8}
    (hbyte : rest.head? = some byte) : isDigit byte = false := by
  obtain ⟨_, tail, rfl, rfl | rfl | rfl⟩ := h
  · cases hbyte
    rfl
  · cases hbyte
    rfl
  · cases hbyte
    rfl

theorem gives_digits {text : List Char} {rest : List UInt8} (hdigits : ∀ c ∈ text, c.isDigit = true)
    (hrest : Delimited rest) : Gives digits (charBytes text ++ rest) (.ok text) rest :=
  gives_digits_of_end hdigits fun _ => isDigit_of_delimited hrest

/-! ## Whole numbers -/

/-- The form of a whole number. -/
def wholeText (negative : Bool) (whole : List Char) : NumberText :=
  { negative, whole, fraction := none, exponent := none }

/-- Behind the digits of a whole number there is neither a point nor an exponent. -/
theorem gives_numberText {first : UInt8} {text : List Char} {size : Nat} {rest : List UInt8}
    (hdigits : ∀ c ∈ text, c.isDigit = true) (hrest : Delimited rest)
    (hwhole : (if first == 0x2d then text else Char.ofNat first.toNat :: text) = writeNat size) :
    Gives (numberText first) (charBytes text ++ rest)
      (.ok (wholeText (first == 0x2d) (writeNat size))) rest := by
  have hform : ((writeNat size).isEmpty ||
      ((writeNat size).head? == some '0' && (writeNat size).length != 1)) = false := by
    cases hwrite : writeNat size with
    | nil => exact absurd hwrite Nat.toDigits_ne_nil
    | cons c others =>
        by_cases hpos : 0 < size
        · have hzero := head?_writeNat_ne hpos
          rw [hwrite] at hzero
          have hhead : ((c :: others).head? == some '0') = false := beq_eq_false_iff_ne.2 hzero
          rw [hhead]
          rfl
        · obtain rfl : size = 0 := by omega
          cases hwrite
          rfl
  unfold numberText
  refine (gives_digits hdigits hrest).bind ?_
  dsimp only
  rw [hwhole, if_neg (by rw [hform]; exact Bool.false_ne_true)]
  obtain ⟨byte, tail, rfl, rfl | rfl | rfl⟩ := hrest
  · exact (gives_peek _ tail).bind ((gives_peek _ tail).bind (gives_done _ _))
  · exact (gives_peek _ tail).bind ((gives_peek _ tail).bind (gives_done _ _))
  · exact (gives_peek _ tail).bind ((gives_peek _ tail).bind (gives_done _ _))

theorem numeral_wholeText {size : Nat} (h : size < UInt64.size) :
    (wholeText false (writeNat size)).numeral = .ok (.integer size) := by
  have hlength : (writeNat size).length ≤ 20 :=
    length_writeNat_le (Nat.le_of_lt h)
  simp [wholeText, NumberText.numeral, ofDigitChars_writeNat, hlength, h]

theorem numeral_wholeText_negative {size : Nat} (hpos : 0 < size) (h : size ≤ UInt64.size / 2) :
    (wholeText true (writeNat size)).numeral = .ok (.integer (-size)) := by
  have hlength : (writeNat size).length ≤ 20 :=
    length_writeNat_le (Nat.le_trans h (by decide))
  simp [wholeText, NumberText.numeral, ofDigitChars_writeNat, hlength, h, hpos]

/-- What the first byte of a number and the bytes behind it are read as. -/
structure IsNumber (value : Int) (first : UInt8) (others : List UInt8) : Prop where
  starts : startsNumber first = true
  form : ∀ rest, Delimited rest → ∃ number,
    Gives (numberText first) (others ++ rest) (.ok number) rest ∧
      number.numeral = .ok (.integer value)

/-- The text of a 64-bit word is a number in JSON, and denotes the word. -/
theorem exists_isNumber (word : Int64) : ∃ first others,
    charBytes (writeInt word.toInt) = first :: others ∧ IsNumber word.toInt first others := by
  have hleast := word.minValue_le_toInt
  have hmost := word.toInt_le
  rw [Int64.toInt_minValue] at hleast
  rw [Int64.toInt_maxValue] at hmost
  cases hvalue : word.toInt with
  | ofNat size =>
      rw [hvalue] at hmost
      have hdigit := @isDigit_of_mem_writeNat size
      cases hwrite : writeNat size with
      | nil => exact absurd hwrite Nat.toDigits_ne_nil
      | cons c text =>
          rw [hwrite] at hdigit
          have hc := hdigit List.mem_cons_self
          have hfirst := isDigit_ofNat hc
          have hminus := minus_of_isDigit hc
          refine ⟨UInt8.ofNat c.toNat, charBytes text, ?_, ?_, ?_⟩
          · obtain ⟨_, hhigh⟩ := range_of_isDigit hc
            rw [writeInt, hwrite, charBytes_cons, utf8EncodeChar_of_ascii (by omega)]
            rfl
          · rw [startsNumber, hfirst, Bool.or_true]
          · intro rest hrest
            refine ⟨wholeText false (writeNat size), ?_, numeral_wholeText ?_⟩
            · rw [← hminus]
              apply gives_numberText (fun d hd => hdigit (List.mem_cons_of_mem c hd)) hrest
              rw [hminus, charOfByte_ofNat hc, hwrite]
              rfl
            · have hsize : (size : Int) ≤ 9223372036854775807 := hmost
              show size < 18446744073709551616
              omega
  | negSucc size =>
      rw [hvalue] at hleast
      refine ⟨0x2d, charBytes (writeNat (size + 1)), rfl, rfl, ?_⟩
      intro rest hrest
      refine ⟨wholeText true (writeNat (size + 1)), ?_, ?_⟩
      · exact @gives_numberText 0x2d _ _ _ (fun _ => isDigit_of_mem_writeNat) hrest rfl
      · apply numeral_wholeText_negative (Nat.succ_pos size)
        show size + 1 ≤ 9223372036854775808
        omega

theorem IsNumber.gives_numeral {value : Int} {first : UInt8} {others rest : List UInt8}
    (h : IsNumber value first others) (hrest : Delimited rest) :
    Gives (numeral first) (others ++ rest) (.ok (.integer value)) rest := by
  obtain ⟨number, hnumber, hvalue⟩ := h.form rest hrest
  refine hnumber.bind ?_
  rw [hvalue]
  exact gives_done _ rest

theorem isSpace_of_startsNumber {byte : UInt8} (h : startsNumber byte = true) :
    isSpace byte = false := by
  rw [startsNumber, Bool.or_eq_true, beq_iff_eq] at h
  rcases h with rfl | hdigit
  · rfl
  · exact isSpace_of_isDigit hdigit

/-- A byte that begins a number begins no other value. -/
theorem ne_of_startsNumber {byte other : UInt8} (h : startsNumber byte = true)
    (hother : startsNumber other = false) : byte ≠ other := by
  rintro rfl
  rw [h] at hother
  cases hother

/-- A word is read back. -/
theorem reads_int64 (word : Int64) : Reads int64 (.integer word.toInt) word := by
  intro rest hrest
  obtain ⟨first, others, hbytes, hnumber⟩ := exists_isNumber word
  show Gives int64 (charBytes (writeInt word.toInt) ++ rest) _ _
  rw [hbytes]
  unfold int64
  refine (gives_peekToken _ (isSpace_of_startsNumber hnumber.starts)).bind ?_
  dsimp only
  rw [if_pos hnumber.starts]
  refine (gives_next _ _).bind ((hnumber.gives_numeral hrest).bind ?_)
  dsimp only
  rw [int64OfInt?_toInt]
  exact gives_done word rest

end Reader

end Json

end FoodOrdering
