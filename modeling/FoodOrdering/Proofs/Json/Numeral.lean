import FoodOrdering.Proofs.Json.Number
import FoodOrdering.Proofs.Number.Shortest

/-!
# Numbers as they are written

A number has digits, the first of them no zero unless it is the only one, and behind them perhaps a
fraction and an exponent.  Whatever number is written has this form, and whatever has it is passed
over by a reader of numbers.
-/

namespace FoodOrdering.Json

open Text Reading

/-! ## The form of a number -/

/-- One digit or more. -/
structure IsDigits (text : List Char) : Prop where
  ne_nil : text ≠ []
  isDigit : ∀ c ∈ text, c.isDigit = true

/-- Digits without a needless zero in front. -/
structure IsWhole (text : List Char) : Prop extends IsDigits text where
  form : text.head? = some '0' → text.length = 1

/-- Nothing, or a point with digits behind it. -/
inductive IsFraction : List Char → Prop
  | none : IsFraction []
  | digits {text : List Char} (h : IsDigits text) : IsFraction ('.' :: text)

/-- Nothing, or a mark with digits behind it and perhaps a minus sign between. -/
inductive IsExponent : List Char → Prop
  | none : IsExponent []
  | positive {text : List Char} (h : IsDigits text) : IsExponent ('e' :: text)
  | negative {text : List Char} (h : IsDigits text) : IsExponent ('e' :: '-' :: text)

/-- A number without its sign. -/
inductive IsUnsigned : List Char → Prop
  | parts {whole fraction exponent : List Char} (hwhole : IsWhole whole)
      (hfraction : IsFraction fraction) (hexponent : IsExponent exponent) :
      IsUnsigned (whole ++ fraction ++ exponent)

/-- A number, with a minus sign or without a sign. -/
inductive IsNumberText : List Char → Prop
  | positive {text : List Char} (h : IsUnsigned text) : IsNumberText text
  | negative {text : List Char} (h : IsUnsigned text) : IsNumberText ('-' :: text)

theorem isDigits_writeNat (value : Nat) : IsDigits (writeNat value) :=
  ⟨Nat.toDigits_ne_nil, fun _ => isDigit_of_mem_writeNat⟩

theorem isWhole_writeNat (value : Nat) : IsWhole (writeNat value) := by
  refine ⟨isDigits_writeNat value, fun hzero => ?_⟩
  by_cases hpos : 0 < value
  · exact absurd hzero (head?_writeNat_ne hpos)
  · obtain rfl : value = 0 := by omega
    rfl

theorem isWhole_zero : IsWhole ['0'] :=
  isWhole_writeNat 0

theorem isExponent_writeInt (value : Int) : IsExponent ('e' :: writeInt value) := by
  cases value with
  | ofNat size => exact .positive (isDigits_writeNat size)
  | negSucc size => exact .negative (isDigits_writeNat (size + 1))

theorem IsWhole.isUnsigned {text : List Char} (h : IsWhole text) : IsUnsigned text := by
  have hparts := IsUnsigned.parts h .none .none
  rwa [List.append_nil, List.append_nil] at hparts

theorem isNumberText_writeInt (value : Int) : IsNumberText (writeInt value) := by
  cases value with
  | ofNat size => exact .positive (isWhole_writeNat size).isUnsigned
  | negSucc size => exact .negative (isWhole_writeNat (size + 1)).isUnsigned

/-! ## Doubles -/

theorem IsDigits.append {first second : List Char} (hfirst : IsDigits first)
    (hsecond : ∀ c ∈ second, c.isDigit = true) : IsDigits (first ++ second) := by
  refine ⟨List.append_ne_nil_of_left_ne_nil hfirst.ne_nil second, fun c hc => ?_⟩
  rcases List.mem_append.1 hc with hleft | hright
  · exact hfirst.isDigit c hleft
  · exact hsecond c hright

theorem isDigit_of_mem_zeros {count : Nat} {c : Char} (h : c ∈ List.replicate count '0') :
    c.isDigit = true := by
  rw [List.eq_of_mem_replicate h]
  rfl

/-- Some of the first digits of a number that is not zero have no zero in front. -/
theorem isWhole_take_writeNat {value : Nat} (hpos : 0 < value) (count : Nat) (hcount : 0 < count) :
    IsWhole ((writeNat value).take count) := by
  have hdigits := isDigits_writeNat value
  have hhead : ((writeNat value).take count).head? = (writeNat value).head? := by
    rw [List.head?_take, if_neg (by omega)]
  refine ⟨⟨?_, fun c hc => hdigits.isDigit c (List.mem_of_mem_take hc)⟩, fun hzero => ?_⟩
  · intro hnil
    rcases List.take_eq_nil_iff.1 hnil with hnone | hempty
    · omega
    · exact hdigits.ne_nil hempty
  · exact absurd (hhead.symm.trans hzero) (head?_writeNat_ne hpos)

theorem isDigits_drop_writeNat {value count : Nat} (hcount : count < (writeNat value).length) :
    IsDigits ((writeNat value).drop count) := by
  refine ⟨fun hnil => ?_, fun c hc => isDigit_of_mem_writeNat (List.mem_of_mem_drop hc)⟩
  have hle := List.drop_eq_nil_iff.1 hnil
  omega

/-- Wherever the point of a number that is not zero is put, the text is a number. -/
theorem isUnsigned_placePoint {number : Number.Scientific} (h : 0 < number.digits) :
    IsUnsigned (placePoint number) := by
  obtain ⟨value, exponent⟩ := number
  have hlength : 0 < (writeNat value).length :=
    List.length_pos_iff.2 (isDigits_writeNat value).ne_nil
  unfold placePoint
  dsimp only at h ⊢
  split
  next hwhole =>
    have hfront := isWhole_take_writeNat h (writeNat value).length hlength
    rw [List.take_length] at hfront
    have hzeros : IsWhole (writeNat value ++ List.replicate exponent.toNat '0') := by
      refine ⟨hfront.toIsDigits.append fun c => isDigit_of_mem_zeros, fun hzero => ?_⟩
      have hhead : (writeNat value ++ List.replicate exponent.toNat '0').head? =
          (writeNat value).head? := by
        rw [List.head?_append, Option.or_eq_left_of_isSome (List.isSome_head?.2 hfront.ne_nil)]
      exact absurd (hhead.symm.trans hzero) (head?_writeNat_ne h)
    have hparts := IsUnsigned.parts hzeros (.digits isWhole_zero.toIsDigits) .none
    rwa [List.append_nil] at hparts
  next hnotWhole =>
    split
    next hinner =>
      have hfraction :
          IsDigits ((writeNat value).drop ((writeNat value).length + exponent).toNat) :=
        isDigits_drop_writeNat (by omega)
      have hparts := IsUnsigned.parts
        (isWhole_take_writeNat h ((writeNat value).length + exponent).toNat (by omega))
        (.digits hfraction) .none
      rwa [List.append_nil] at hparts
    next =>
      split
      next =>
        have hfraction : IsDigits
            (List.replicate (-((writeNat value).length + exponent)).toNat '0' ++
              writeNat value) := by
          refine ⟨List.append_ne_nil_of_right_ne_nil _ (isDigits_writeNat value).ne_nil, ?_⟩
          intro c hc
          rcases List.mem_append.1 hc with hleft | hright
          · exact isDigit_of_mem_zeros hleft
          · exact isDigit_of_mem_writeNat hright
        have hparts := IsUnsigned.parts isWhole_zero (.digits hfraction) .none
        rwa [List.append_nil] at hparts
      next =>
        split
        next =>
          have hparts := IsUnsigned.parts (isWhole_writeNat value) .none
            (isExponent_writeInt ((writeNat value).length + exponent - 1))
          rwa [List.append_nil] at hparts
        next hmore =>
          have hfraction : IsDigits ((writeNat value).drop 1) := isDigits_drop_writeNat (by omega)
          have hparts := IsUnsigned.parts (isWhole_take_writeNat h 1 (by decide))
            (.digits hfraction) (isExponent_writeInt ((writeNat value).length + exponent - 1))
          rwa [List.append_assoc] at hparts

/-- A double is written as a number, or as null. -/
theorem isNumberText_realChars (value : Float) :
    realChars value = ['n', 'u', 'l', 'l'] ∨ IsNumberText (realChars value) := by
  have hsigned : ∀ {text : List Char}, IsUnsigned text →
      IsNumberText ((if value.toBits >>> 63 == 1 then ['-'] else []) ++ text) := by
    intro text htext
    split
    · exact .negative htext
    · exact .positive htext
  unfold realChars
  dsimp only
  split
  next => exact .inl rfl
  next =>
    right
    split
    next =>
      exact hsigned (.parts isWhole_zero (.digits isWhole_zero.toIsDigits) .none)
    next hpos =>
      refine hsigned (isUnsigned_placePoint (Number.digits_shortest_pos ?_ (by simpa using hpos)))
      rw [UInt64.toNat_and, show (0x7fffffffffffffff : UInt64).toNat = 2 ^ 63 - 1 from rfl]
      exact Nat.lt_of_le_of_lt Nat.and_le_right (by decide)

/-! ## Reading over a number -/

namespace Reader

variable {α β : Type} {input middle rest : List UInt8}

/-- The reader succeeds, whatever it finds, and leaves this rest. -/
def Passes (reading : Reader α) (input rest : List UInt8) : Prop :=
  ∃ value, Gives reading input (.ok value) rest

theorem passes_done (value : α) (rest : List UInt8) : Passes (done value) rest rest :=
  ⟨value, gives_done value rest⟩

theorem passes_bind {first : Reader α} {second : α → Reader β} {value : α}
    (h : Gives first input (.ok value) middle) (hnext : Passes (second value) middle rest) :
    Passes (first >>= second) input rest := by
  obtain ⟨found, hfound⟩ := hnext
  exact ⟨found, h.bind hfound⟩

theorem gives_peek_head? (input : List UInt8) :
    Gives (peek : Reader (Option UInt8)) input (.ok input.head?) input :=
  ⟨rfl, rfl⟩

/-- The first byte of digits is a digit. -/
theorem exists_head?_of_isDigits {text : List Char} (h : IsDigits text) (rest : List UInt8) :
    ∃ byte, (charBytes text ++ rest).head? = some byte ∧ isDigit byte = true := by
  obtain ⟨hne, hdigits⟩ := h
  obtain ⟨c, others, rfl⟩ := List.exists_cons_of_ne_nil hne
  refine ⟨UInt8.ofNat c.toNat, ?_, isDigit_ofNat (hdigits c List.mem_cons_self)⟩
  rw [charBytes_of_digits hdigits]
  rfl

theorem passes_exponentDigits {text : List Char} (h : IsExponent ('e' :: text))
    (hrest : Delimited rest) : Passes exponentDigits (charBytes text ++ rest) rest := by
  have hlast : ∀ (negative : Bool) {text : List Char}, IsDigits text → Passes (do
      let run ← digits
      if run.isEmpty then fail .malformed
      else
        let size : Int := Nat.ofDigitChars 10 run 0
        return if negative then -size else size) (charBytes text ++ rest) rest := by
    intro negative text htext
    refine passes_bind (gives_digits htext.isDigit hrest) ?_
    rw [if_neg (by simpa using htext.ne_nil)]
    exact passes_done _ rest
  unfold exponentDigits
  cases h with
  | positive hdigits =>
      obtain ⟨byte, hbyte, hdigit⟩ := exists_head?_of_isDigits hdigits rest
      refine passes_bind (gives_peek_head? _) ?_
      dsimp only
      rw [hbyte, if_neg]
      · exact hlast _ hdigits
      · rw [Bool.or_eq_true, beq_iff_eq, beq_iff_eq]
        rintro (⟨⟨⟩⟩ | ⟨⟨⟩⟩)
        · cases hdigit
        · cases hdigit
  | negative hdigits =>
      exact passes_bind (gives_peek _ _) (passes_bind (gives_next _ _) (hlast true hdigits))

/-- What stands behind the digits of a number is no digit. -/
theorem isDigit_of_exponent {exponent : List Char} (h : IsExponent exponent)
    (hrest : Delimited rest) {byte : UInt8}
    (hbyte : (charBytes exponent ++ rest).head? = some byte) : isDigit byte = false := by
  cases h with
  | none => exact isDigit_of_delimited hrest hbyte
  | positive | negative =>
      cases hbyte
      rfl

theorem isDigit_of_fraction {fraction exponent : List Char} (hfraction : IsFraction fraction)
    (hexponent : IsExponent exponent) (hrest : Delimited rest) {byte : UInt8}
    (hbyte : (charBytes fraction ++ (charBytes exponent ++ rest)).head? = some byte) :
    isDigit byte = false := by
  cases hfraction with
  | none => exact isDigit_of_exponent hexponent hrest hbyte
  | digits =>
      cases hbyte
      rfl

/-- The reader of numbers passes over a number whose first byte was read. -/
theorem passes_numberText {first : UInt8} {digits fraction exponent : List Char}
    (hdigits : ∀ c ∈ digits, c.isDigit = true)
    (hwhole : IsWhole (if first == 0x2d then digits else Char.ofNat first.toNat :: digits))
    (hfraction : IsFraction fraction) (hexponent : IsExponent exponent) (hrest : Delimited rest) :
    Passes (numberText first)
      (charBytes digits ++ (charBytes fraction ++ (charBytes exponent ++ rest))) rest := by
  unfold numberText
  refine passes_bind (gives_digits_of_end hdigits fun byte =>
    isDigit_of_fraction hfraction hexponent hrest) ?_
  dsimp only
  generalize (if first == 0x2d then digits else Char.ofNat first.toNat :: digits) = whole
    at hwhole ⊢
  rw [if_neg]
  · -- Behind the whole part comes a fraction or none, and behind either an exponent or none.
    have hlast : ∀ fraction, Passes (do
        let mark ← peek
        if mark == some 0x65 || mark == some 0x45 then
          let _ ← next
          let power ← exponentDigits
          return { negative := first == 0x2d, whole, fraction, exponent := some power : NumberText }
        else return { negative := first == 0x2d, whole, fraction, exponent := none })
        (charBytes exponent ++ rest) rest := by
      intro fraction
      cases hexponent with
      | none =>
          obtain ⟨_, tail, rfl, rfl | rfl | rfl⟩ := hrest
          · exact passes_bind (gives_peek _ tail) (passes_done _ _)
          · exact passes_bind (gives_peek _ tail) (passes_done _ _)
          · exact passes_bind (gives_peek _ tail) (passes_done _ _)
      | positive hpower =>
          obtain ⟨power, hgives⟩ := passes_exponentDigits (.positive hpower) hrest
          exact passes_bind (gives_peek _ _) (passes_bind (gives_next _ _)
            (passes_bind hgives (passes_done _ rest)))
      | negative hpower =>
          obtain ⟨power, hgives⟩ := passes_exponentDigits (.negative hpower) hrest
          exact passes_bind (gives_peek _ _) (passes_bind (gives_next _ _)
            (passes_bind hgives (passes_done _ rest)))
    refine passes_bind (gives_peek_head? _) ?_
    cases hfraction with
    | none =>
        have hpoint : (charBytes exponent ++ rest).head? ≠ some 0x2e := by
          cases hexponent with
          | none =>
              obtain ⟨_, tail, rfl, rfl | rfl | rfl⟩ := hrest
              · nofun
              · nofun
              · nofun
          | positive | negative => nofun
        rw [if_neg (by rw [beq_iff_eq]; exact hpoint)]
        exact hlast none
    | @digits text htext =>
        refine passes_bind (gives_next _ _) ?_
        refine passes_bind (gives_digits_of_end htext.isDigit fun byte =>
          isDigit_of_exponent hexponent hrest) ?_
        rw [if_neg (by simpa using htext.ne_nil)]
        exact hlast (some text)
  · rw [Bool.or_eq_true, not_or, Bool.and_eq_true, List.isEmpty_iff, beq_iff_eq, bne_iff_ne]
    exact ⟨hwhole.ne_nil, fun ⟨hzero, hlong⟩ => hlong (hwhole.form hzero)⟩

/-- A number begins with a minus sign or with a digit, and the reader passes over what is behind. -/
theorem exists_passes_numberText {text : List Char} (h : IsNumberText text) : ∃ first others,
    charBytes text = first :: others ∧ startsNumber first = true ∧
      ∀ rest, Delimited rest → Passes (numberText first) (others ++ rest) rest := by
  cases h with
  | negative h =>
      obtain @⟨whole, fraction, exponent, hwhole, hfraction, hexponent⟩ := h
      refine ⟨0x2d, charBytes (whole ++ fraction ++ exponent), rfl, rfl, fun rest hrest => ?_⟩
      simp only [charBytes_append, List.append_assoc]
      exact passes_numberText hwhole.isDigit hwhole hfraction hexponent hrest
  | positive h =>
      obtain @⟨whole, fraction, exponent, hwhole, hfraction, hexponent⟩ := h
      obtain ⟨c, digits, rfl⟩ := List.exists_cons_of_ne_nil hwhole.ne_nil
      have hc := hwhole.isDigit c List.mem_cons_self
      refine ⟨UInt8.ofNat c.toNat, charBytes (digits ++ fraction ++ exponent), ?_, ?_, ?_⟩
      · obtain ⟨_, hhigh⟩ := range_of_isDigit hc
        rw [List.cons_append, List.cons_append, charBytes_cons, utf8EncodeChar_of_ascii (by omega)]
        rfl
      · rw [startsNumber, isDigit_ofNat hc, Bool.or_true]
      · intro rest hrest
        simp only [charBytes_append, List.append_assoc]
        refine passes_numberText (fun d hd => hwhole.isDigit d (List.mem_cons_of_mem c hd)) ?_
          hfraction hexponent hrest
        rw [minus_of_isDigit hc, charOfByte_ofNat hc]
        exact hwhole

end Reader

end FoodOrdering.Json
