import FoodOrdering.Token.Base64Url

/-!
# Bytes behind letters

What is written for a run of bytes is letters of the alphabet only, so that no point is among them,
and reading it gives the bytes back, whatever their number leaves over three.
-/

namespace FoodOrdering.Base64Url

theorem value?_letter_all : ∀ value < 64, value? (letter value) = some value := by
  decide

theorem value?_letter {value : Nat} (h : value < 64) : value? (letter value) = some value :=
  value?_letter_all value h

theorem letter_ne_point_all : ∀ value < 64, letter value ≠ '.' := by
  decide

theorem letter_ne_point {value : Nat} (h : value < 64) : letter value ≠ '.' :=
  letter_ne_point_all value h

section

variable (a b c : UInt8)

/-! The bits of up to three bytes, six at a time. -/

theorem first_lt : a.toNat / 4 < 64 := by
  have := a.toNat_lt
  omega

theorem second_lt : a.toNat % 4 * 16 + b.toNat / 16 < 64 := by
  have := b.toNat_lt
  omega

theorem third_lt : b.toNat % 16 * 4 + c.toNat / 64 < 64 := by
  have := c.toNat_lt
  omega

/-- Four letters are the three bytes that they were made of. -/
theorem group_of_bytes :
    group (a.toNat / 4) (a.toNat % 4 * 16 + b.toNat / 16) (b.toNat % 16 * 4 + c.toNat / 64)
      (c.toNat % 64) = [a, b, c] := by
  have ha := a.toNat_lt
  have hb := b.toNat_lt
  have hc := c.toNat_lt
  have hfirst : a.toNat / 4 * 4 + (a.toNat % 4 * 16 + b.toNat / 16) / 16 = a.toNat := by omega
  have hsecond : (a.toNat % 4 * 16 + b.toNat / 16) % 16 * 16 +
      (b.toNat % 16 * 4 + c.toNat / 64) / 4 = b.toNat := by omega
  have hthird : (b.toNat % 16 * 4 + c.toNat / 64) % 4 * 64 + c.toNat % 64 = c.toNat := by omega
  rw [group, hfirst, hsecond, hthird, UInt8.ofNat_toNat, UInt8.ofNat_toNat, UInt8.ofNat_toNat]

end

/-- Bytes are read back from what is written for them. -/
theorem decode_encode (bytes : List UInt8) : decode (encode bytes) = some bytes := by
  induction bytes using encode.induct with
  | case1 => rfl
  | case2 a =>
      have hspare : a.toNat % 4 * 16 % 16 = 0 := by omega
      have hbyte : a.toNat / 4 * 4 + a.toNat % 4 * 16 / 16 = a.toNat := by omega
      have hsecond : a.toNat % 4 * 16 < 64 := by omega
      simp only [encode, decode, value?_letter (first_lt a), value?_letter hsecond, hspare, hbyte,
        Option.bind_eq_bind, Option.bind_some, if_true, UInt8.ofNat_toNat]
  | case3 a b =>
      have hb := b.toNat_lt
      have hspare : b.toNat % 16 * 4 % 4 = 0 := by omega
      have hfirst : a.toNat / 4 * 4 + (a.toNat % 4 * 16 + b.toNat / 16) / 16 = a.toNat := by omega
      have hsecond : (a.toNat % 4 * 16 + b.toNat / 16) % 16 * 16 + b.toNat % 16 * 4 / 4 =
          b.toNat := by omega
      have hthird : b.toNat % 16 * 4 < 64 := by omega
      simp only [encode, decode, value?_letter (first_lt a), value?_letter (second_lt a b),
        value?_letter hthird, hspare, hfirst, hsecond, Option.bind_eq_bind, Option.bind_some,
        if_true, UInt8.ofNat_toNat]
  | case4 a b c rest ih =>
      have hlast : c.toNat % 64 < 64 := Nat.mod_lt _ (by decide)
      simp [encode, decode, value?_letter (first_lt a), value?_letter (second_lt a b),
        value?_letter (third_lt b c), value?_letter hlast, ih, group_of_bytes]

/-- No point stands among the letters. -/
theorem point_notMem_encode (bytes : List UInt8) : '.' ∉ encode bytes := by
  induction bytes using encode.induct with
  | case1 => exact List.not_mem_nil
  | case2 a =>
      have hsecond : a.toNat % 4 * 16 < 64 := by omega
      simp [encode, (letter_ne_point (first_lt a)).symm, (letter_ne_point hsecond).symm]
  | case3 a b =>
      have hthird : b.toNat % 16 * 4 < 64 := by omega
      simp [encode, (letter_ne_point (first_lt a)).symm, (letter_ne_point (second_lt a b)).symm,
        (letter_ne_point hthird).symm]
  | case4 a b c rest ih =>
      have hlast : c.toNat % 64 < 64 := Nat.mod_lt _ (by decide)
      simp [encode, (letter_ne_point (first_lt a)).symm, (letter_ne_point (second_lt a b)).symm,
        (letter_ne_point (third_lt b c)).symm, (letter_ne_point hlast).symm, ih]

end FoodOrdering.Base64Url
