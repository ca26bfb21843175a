import FoodOrdering.Identity.TrustZone
import FoodOrdering.Proofs.Network.Address
import FoodOrdering.Proofs.Network.Block
import Mathlib.Data.List.Basic

/-!
# Whom a zone admits

A zone looks at the canonical address of a peer, so it does not tell an address of four bytes from
its mapped form.  What the zone of private networks asks of the parts of an address, with masks, is
that the address lies in one of the blocks for loopback, private and link-local use.
-/

namespace FoodOrdering

namespace Address

/-- An address of four bytes in the form of eight groups. -/
def IsMapped (address : Address) : Prop :=
  ∃ inner, address = .v6 (.ofIPv4 inner)

theorem canonical_ofIPv4 (inner : IPv4) : (v6 (.ofIPv4 inner)).canonical = .v4 inner := by
  rw [canonical, IPv6.mapped?_eq_some_iff.2 rfl]

theorem canonical_eq_self {address : Address} (h : ¬ address.IsMapped) :
    address.canonical = address := by
  cases address with
  | v4 address => rfl
  | v6 address =>
      rw [canonical]
      cases hmapped : address.mapped? with
      | some inner =>
          exact absurd ⟨inner, congrArg v6 (IPv6.mapped?_eq_some_iff.1 hmapped)⟩ h
      | none => rfl

theorem not_isMapped_canonical (address : Address) : ¬ address.canonical.IsMapped := by
  rintro ⟨inner, hinner⟩
  by_cases hmapped : address.IsMapped
  · obtain ⟨other, rfl⟩ := hmapped
    rw [canonical_ofIPv4] at hinner
    cases hinner
  · exact hmapped ⟨inner, (canonical_eq_self hmapped).symm.trans hinner⟩

end Address

namespace IPv4

/-- The blocks of four bytes for loopback, private and link-local use. -/
def localBlocks : List (Block 32) :=
  [block ⟨127, 0, 0, 0⟩ 8, block ⟨10, 0, 0, 0⟩ 8, block ⟨172, 16, 0, 0⟩ 12,
    block ⟨192, 168, 0, 0⟩ 16, block ⟨169, 254, 0, 0⟩ 16]

def IsLocal (address : IPv4) : Prop :=
  ∃ block ∈ localBlocks, block.Holds address.number

instance (address : IPv4) : Decidable address.IsLocal :=
  inferInstanceAs (Decidable (∃ block ∈ localBlocks, block.Holds address.number))

theorem isPrivate_iff {address : IPv4} : address.isPrivate = true ↔ address.IsLocal := by
  have hhalf : address.b &&& 0xf0 = 16 ↔ address.b.toNat / 2 ^ 4 = 1 := by
    rw [← UInt8.toNat_inj, UInt8.toNat_and]
    exact and_mask_eq_iff 4 4 1 address.b.toNat_lt
  simp only [IsLocal, localBlocks, List.exists_mem_cons_iff, List.not_mem_nil, false_and,
    exists_false, holds_block_first, holds_block_half, holds_block_second, isPrivate,
    Bool.or_eq_true, Bool.and_eq_true, beq_iff_eq, hhalf, or_assoc, or_false]
  rfl

/-- A block ends between two addresses. -/
example : IsLocal ⟨172, 31, 255, 255⟩ ∧ ¬ IsLocal ⟨172, 32, 0, 0⟩ := by
  decide

end IPv4

namespace IPv6

/-- The blocks of eight groups for unique local and for link-local use. -/
def localBlocks : List (Block 128) :=
  [block ⟨#v[0xfc00, 0, 0, 0, 0, 0, 0, 0]⟩ 7, block ⟨#v[0xfe80, 0, 0, 0, 0, 0, 0, 0]⟩ 10]

theorem isPrivate_iff {address : IPv6} :
    address.isPrivate = true ↔
      address = loopback ∨ ∃ block ∈ localBlocks, block.Holds address.number := by
  have hfirst := address.groups[0].toNat_lt
  have hunique : address.groups[0] &&& 0xfe00 = 0xfc00 ↔
      (block ⟨#v[0xfc00, 0, 0, 0, 0, 0, 0, 0]⟩ 7).Holds address.number := by
    rw [holds_block_first (by decide : 9 ≤ 16), ← UInt16.toNat_inj, UInt16.toNat_and]
    exact and_mask_eq_iff 7 9 0x7e hfirst
  have hlink : address.groups[0] &&& 0xffc0 = 0xfe80 ↔
      (block ⟨#v[0xfe80, 0, 0, 0, 0, 0, 0, 0]⟩ 10).Holds address.number := by
    rw [holds_block_first (by decide : 6 ≤ 16), ← UInt16.toNat_inj, UInt16.toNat_and]
    exact and_mask_eq_iff 10 6 0x3fa hfirst
  simp only [isPrivate, localBlocks, List.exists_mem_cons_iff, List.not_mem_nil, false_and,
    exists_false, Bool.or_eq_true, beq_iff_eq, hunique, hlink, or_assoc, or_false]

end IPv6

namespace Address

/-- An address for loopback, private or link-local use, four bytes in their mapped form included. -/
def IsLocal : Address → Prop
  | .v4 address => address.IsLocal
  | .v6 address =>
      address = .loopback ∨ (∃ block ∈ IPv6.localBlocks, block.Holds address.number) ∨
        ∃ inner : IPv4, address = .ofIPv4 inner ∧ inner.IsLocal

/-- The mapped range lies outside the blocks of eight groups. -/
theorem isPrivate_ofIPv4 (inner : IPv4) : (IPv6.ofIPv4 inner).isPrivate = false := by
  have hloopback : (IPv6.ofIPv4 inner == IPv6.loopback) = false := by
    rw [beq_eq_false_iff_ne]
    intro heq
    have hsixth : (IPv6.ofIPv4 inner).groups[5] = IPv6.loopback.groups[5] := by rw [heq]
    exact absurd hsixth (by decide : (0xffff : UInt16) ≠ 0)
  have hfirst : (IPv6.ofIPv4 inner).groups[0] = 0 := rfl
  rw [IPv6.isPrivate, hloopback, hfirst]
  decide

theorem isPrivate_iff {address : Address} : address.isPrivate = true ↔ address.IsLocal := by
  by_cases hmapped : address.IsMapped
  · obtain ⟨inner, rfl⟩ := hmapped
    have houtside := mt IPv6.isPrivate_iff.2 (Bool.eq_false_iff.1 (isPrivate_ofIPv4 inner))
    rw [not_or] at houtside
    have hinner : (∃ other : IPv4, IPv6.ofIPv4 inner = .ofIPv4 other ∧ other.IsLocal) ↔
        inner.IsLocal := by
      constructor
      · rintro ⟨other, heq, hlocal⟩
        have hsame := IPv6.mapped?_eq_some_iff.2 heq
        rw [IPv6.mapped?_eq_some_iff.2 rfl] at hsame
        exact Option.some.inj hsame ▸ hlocal
      · exact fun hlocal => ⟨inner, rfl, hlocal⟩
    rw [isPrivate, canonical_ofIPv4, IsLocal, hinner, or_iff_right houtside.1,
      or_iff_right houtside.2]
    exact IPv4.isPrivate_iff
  · rw [isPrivate, canonical_eq_self hmapped]
    cases address with
    | v4 address => exact IPv4.isPrivate_iff
    | v6 address =>
        have hnone : ¬ ∃ inner : IPv4, address = .ofIPv4 inner ∧ inner.IsLocal := by
          rintro ⟨inner, rfl, -⟩
          exact hmapped ⟨inner, rfl⟩
        rw [IsLocal, or_iff_left hnone]
        exact IPv6.isPrivate_iff

end Address

namespace TrustZone

/-- Peers with the same canonical address are admitted alike. -/
theorem admits_congr (zone : TrustZone) {first second : Address}
    (h : first.canonical = second.canonical) :
    zone.admits (some first) = zone.admits (some second) := by
  cases zone with
  | any => rfl
  | privateNetwork =>
      show first.isPrivate = second.isPrivate
      rw [Address.isPrivate, Address.isPrivate, h]
  | allowlist peers =>
      show peers.contains first.canonical = peers.contains second.canonical
      rw [h]

/-- The zone of private networks admits exactly the addresses for loopback, private and link-local
use, and no zone tells an address of four bytes from its mapped form. -/
theorem private_zone_is_exact :
    (∀ address : Address, privateNetwork.admits (some address) = true ↔ address.IsLocal) ∧
      ∀ (zone : TrustZone) (inner : IPv4),
        zone.admits (some (.v4 inner)) = zone.admits (some (.v6 (.ofIPv4 inner))) := by
  constructor
  · intro address
    exact Address.isPrivate_iff
  · intro zone inner
    exact zone.admits_congr (Address.canonical_ofIPv4 inner).symm

end TrustZone

end FoodOrdering
