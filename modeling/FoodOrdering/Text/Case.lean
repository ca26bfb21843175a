/-!
# Letter case of ASCII texts

Roles, statuses, header names and media types compare up to the case of the letters a to z only.
-/

namespace FoodOrdering.Text

/-- Capital letters for a to z, every other character as it is. -/
def upperAscii (text : String) : String :=
  String.ofList (text.toList.map Char.toUpper)

/-- Small letters for A to Z, every other character as it is. -/
def lowerAscii (text : String) : String :=
  String.ofList (text.toList.map Char.toLower)

/-- Equality up to the case of ASCII letters. -/
def sameIgnoringCase (first second : String) : Bool :=
  lowerAscii first == lowerAscii second

theorem toList_upperAscii (text : String) :
    (upperAscii text).toList = text.toList.map Char.toUpper := by
  simp [upperAscii]

theorem toList_lowerAscii (text : String) :
    (lowerAscii text).toList = text.toList.map Char.toLower := by
  simp [lowerAscii]

theorem toNat_toUpper (c : Char) :
    c.toUpper.toNat = if 97 ≤ c.toNat ∧ c.toNat ≤ 122 then c.toNat - 32 else c.toNat := by
  unfold Char.toUpper
  have hval : c.val.toNat = c.toNat := rfl
  have hrange : ('a'.val ≤ c.val ∧ c.val ≤ 'z'.val) ↔ 97 ≤ c.toNat ∧ c.toNat ≤ 122 := by
    rw [UInt32.le_iff_toNat_le, UInt32.le_iff_toNat_le]
    exact Iff.rfl
  split
  next h =>
    have hbounds := hrange.1 h
    have hshift : ('A'.val - 'a'.val).toNat = 2 ^ 32 - 32 := by decide
    rw [if_pos hbounds]
    show (c.val + ('A'.val - 'a'.val)).toNat = _
    rw [UInt32.toNat_add]
    omega
  next h => rw [if_neg fun hbounds => h (hrange.2 hbounds)]

theorem toNat_toLower (c : Char) :
    c.toLower.toNat = if 65 ≤ c.toNat ∧ c.toNat ≤ 90 then c.toNat + 32 else c.toNat := by
  unfold Char.toLower
  have hval : c.val.toNat = c.toNat := rfl
  have hrange : (c.val ≥ 'A'.val ∧ c.val ≤ 'Z'.val) ↔ 65 ≤ c.toNat ∧ c.toNat ≤ 90 := by
    rw [ge_iff_le, UInt32.le_iff_toNat_le, UInt32.le_iff_toNat_le]
    exact Iff.rfl
  split
  next h =>
    have hbounds := hrange.1 h
    have hshift : ('a'.val - 'A'.val).toNat = 32 := by decide
    rw [if_pos hbounds]
    show (c.val + ('a'.val - 'A'.val)).toNat = _
    rw [UInt32.toNat_add]
    omega
  next h => rw [if_neg fun hbounds => h (hrange.2 hbounds)]

theorem toUpper_toLower (c : Char) : c.toLower.toUpper = c.toUpper := by
  rw [← Char.toNat_inj, toNat_toUpper, toNat_toUpper, toNat_toLower]
  grind

theorem toLower_toUpper (c : Char) : c.toUpper.toLower = c.toLower := by
  rw [← Char.toNat_inj, toNat_toLower, toNat_toLower, toNat_toUpper]
  grind

/-- Capital letters do as well as small ones to compare texts up to case. -/
theorem sameIgnoringCase_iff {first second : String} :
    sameIgnoringCase first second = true ↔ upperAscii first = upperAscii second := by
  rw [sameIgnoringCase, beq_iff_eq, ← String.toList_inj, ← String.toList_inj, toList_lowerAscii,
    toList_lowerAscii, toList_upperAscii, toList_upperAscii]
  constructor
  · intro h
    have hmap := congrArg (List.map Char.toUpper) h
    rwa [List.map_map, List.map_map, show Char.toUpper ∘ Char.toLower = Char.toUpper from
      funext toUpper_toLower] at hmap
  · intro h
    have hmap := congrArg (List.map Char.toLower) h
    rwa [List.map_map, List.map_map, show Char.toLower ∘ Char.toUpper = Char.toLower from
      funext toLower_toUpper] at hmap

end FoodOrdering.Text
