import FoodOrdering.Network.Address
import Mathlib.Data.Nat.Bitwise

/-!
# Blocks of addresses

An address is a number, its first part the highest.  A block is written as an address and a count
of bits, and holds the addresses whose numbers begin with the same bits.  A mask on the first part
of an address asks for the same, as long as the block is told by that part alone.
-/

namespace FoodOrdering

/-- The numbers of so many bits that begin with the first `bits` bits of a base. -/
structure Block (width : Nat) where
  base : Nat
  bits : Nat
  deriving DecidableEq, Repr

/-- A number begins like the base of the block. -/
def Block.Holds {width : Nat} (block : Block width) (number : Nat) : Prop :=
  number / 2 ^ (width - block.bits) = block.base / 2 ^ (width - block.bits)

instance {width : Nat} (block : Block width) (number : Nat) : Decidable (block.Holds number) :=
  inferInstanceAs (Decidable (_ = _))

/-- What is left of a number under a mask of `ones` bits in front of `zeros` other bits is told by
what stands in front of these. -/
theorem and_mask_eq_iff {number : Nat} (ones zeros high : Nat)
    (hnumber : number < 2 ^ (ones + zeros)) :
    number &&& (2 ^ ones - 1) <<< zeros = high <<< zeros ↔ number / 2 ^ zeros = high := by
  have hmask : number &&& (2 ^ ones - 1) <<< zeros = (number >>> zeros) <<< zeros := by
    apply Nat.eq_of_testBit_eq
    intro place
    by_cases hlow : place < zeros
    · simp [Nat.testBit_shiftLeft, Nat.not_le.2 hlow]
    have hzeros : zeros ≤ place := Nat.not_lt.1 hlow
    by_cases hhigh : place < ones + zeros
    · have hmasked : place - zeros < ones := by omega
      simp [Nat.testBit_shiftLeft, hzeros, hmasked]
    · have hnone : number.testBit place = false :=
        Nat.testBit_lt_two_pow
          (hnumber.trans_le (Nat.pow_le_pow_right Nat.two_pos (Nat.not_lt.1 hhigh)))
      simp [Nat.testBit_shiftLeft, hzeros, hnone]
  rw [hmask, Nat.shiftLeft_eq, Nat.shiftLeft_eq,
    Nat.mul_right_cancel_iff (Nat.two_pow_pos zeros), Nat.shiftRight_eq_div_pow]

namespace IPv4

def number (address : IPv4) : Nat :=
  ((address.a.toNat * 2 ^ 8 + address.b.toNat) * 2 ^ 8 + address.c.toNat) * 2 ^ 8 +
    address.d.toNat

/-- The block that an address begins, by a count of bits. -/
def block (address : IPv4) (bits : Nat) : Block 32 :=
  ⟨address.number, bits⟩

theorem number_div_first (address : IPv4) : address.number / 2 ^ 24 = address.a.toNat := by
  have hb := address.b.toNat_lt
  have hc := address.c.toNat_lt
  have hd := address.d.toNat_lt
  unfold number
  omega

theorem number_div_second (address : IPv4) :
    address.number / 2 ^ 16 = address.a.toNat * 2 ^ 8 + address.b.toNat := by
  have hc := address.c.toNat_lt
  have hd := address.d.toNat_lt
  unfold number
  omega

/-- A block of eight bits is told by the first byte. -/
theorem holds_block_first {base address : IPv4} :
    (base.block 8).Holds address.number ↔ address.a = base.a := by
  show address.number / 2 ^ 24 = base.number / 2 ^ 24 ↔ _
  rw [number_div_first, number_div_first, UInt8.toNat_inj]

/-- A block of sixteen bits is told by the first two bytes. -/
theorem holds_block_second {base address : IPv4} :
    (base.block 16).Holds address.number ↔ address.a = base.a ∧ address.b = base.b := by
  have hb := address.b.toNat_lt
  have hbase := base.b.toNat_lt
  show address.number / 2 ^ 16 = base.number / 2 ^ 16 ↔ _
  rw [number_div_second, number_div_second, ← UInt8.toNat_inj, ← UInt8.toNat_inj]
  omega

/-- A block of twelve bits is told by the first byte and the upper half of the second. -/
theorem holds_block_half {base address : IPv4} :
    (base.block 12).Holds address.number ↔
      address.a = base.a ∧ address.b.toNat / 2 ^ 4 = base.b.toNat / 2 ^ 4 := by
  have hb := address.b.toNat_lt
  have hbase := base.b.toNat_lt
  show address.number / 2 ^ (16 + 4) = base.number / 2 ^ (16 + 4) ↔ _
  rw [Nat.pow_add, ← Nat.div_div_eq_div_mul, ← Nat.div_div_eq_div_mul, number_div_second,
    number_div_second, ← UInt8.toNat_inj]
  omega

end IPv4

namespace IPv6

def number (address : IPv6) : Nat :=
  address.groups.toList.foldl (fun number group => number * 2 ^ 16 + group.toNat) 0

/-- The block that an address begins, by a count of bits. -/
def block (address : IPv6) (bits : Nat) : Block 128 :=
  ⟨address.number, bits⟩

/-- Seven groups behind a number do not reach it. -/
theorem number_div_first (address : IPv6) :
    address.number / 2 ^ 112 = (address.groups.get 0).toNat := by
  obtain ⟨⟨⟨groups⟩, hlength⟩⟩ := address
  match groups, hlength with
  | [a, b, c, d, e, f, g, h], _ =>
      have hb := b.toNat_lt
      have hc := c.toNat_lt
      have hd := d.toNat_lt
      have he := e.toNat_lt
      have hf := f.toNat_lt
      have hg := g.toNat_lt
      have hh := h.toNat_lt
      simp only [number, Vector.toList, List.foldl]
      show _ = a.toNat
      omega

/-- A block of at most sixteen bits is told by the first group. -/
theorem holds_block_first {base address : IPv6} {rest : Nat} (hrest : rest ≤ 16) :
    (base.block (16 - rest)).Holds address.number ↔
      (address.groups.get 0).toNat / 2 ^ rest = (base.groups.get 0).toNat / 2 ^ rest := by
  have hbits : 128 - (16 - rest) = 112 + rest := by omega
  show address.number / 2 ^ (128 - (16 - rest)) = base.number / 2 ^ (128 - (16 - rest)) ↔ _
  rw [hbits, Nat.pow_add, ← Nat.div_div_eq_div_mul, ← Nat.div_div_eq_div_mul, number_div_first,
    number_div_first]

end IPv6

end FoodOrdering
