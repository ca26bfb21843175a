import FoodOrdering.Settings.Validity
import FoodOrdering.Proofs.Except
import FoodOrdering.Proofs.Identity.TrustZone

/-!
# Whom a list of peers trusts

An accepted list becomes a zone, and the zone asks for a peer's canonical address among the listed
ones.  The listed addresses are kept as they were written: an entry outside the mapped range trusts
its address in both forms, and one within the range trusts nobody.
-/

namespace FoodOrdering

namespace Settings

theorem peerAddress_of_trim {entry : String} {address : Address}
    (h : Text.trim entry = address.toText) : peerAddress entry = .ok address := by
  rw [peerAddress, h, Address.ofText?_toText]

namespace Trust

variable {trust : Trust}

/-- Some entry denotes this address. -/
def Lists (trust : Trust) (address : Address) : Prop :=
  ∃ entry ∈ trust.peers, peerAddress entry = .ok address

instance (trust : Trust) (address : Address) : Decidable (trust.Lists address) :=
  inferInstanceAs (Decidable (∃ entry ∈ trust.peers, peerAddress entry = .ok address))

theorem exists_address (hvalid : trust.validate = .ok ()) {entry : String}
    (hentry : entry ∈ trust.peers) : ∃ address, peerAddress entry = .ok address := by
  obtain ⟨addresses, haddresses, -⟩ := bind_eq_ok_iff.1 hvalid
  exact (mem_iff_of_mapM_eq_ok haddresses).1 entry hentry

/-- The zone of an accepted list looks for the canonical address of a peer. -/
theorem exists_zone (hkind : trust.kind = .allowlist) (hvalid : trust.validate = .ok ()) :
    ∃ zone, trust.zone = .ok zone ∧ zone.admits none = false ∧
      ∀ peer, zone.admits (some peer) = true ↔ trust.Lists peer.canonical := by
  obtain ⟨addresses, haddresses, -⟩ := bind_eq_ok_iff.1 hvalid
  refine ⟨.allowlist addresses, ?_, rfl, ?_⟩
  · rw [zone, hkind, haddresses]
    rfl
  · intro peer
    rw [TrustZone.admits, List.contains_iff_mem]
    exact (mem_iff_of_mapM_eq_ok haddresses).2 peer.canonical

/-- Entries in the mapped form are accepted, but a list of nothing else trusts nobody. -/
theorem mapped_entries_trust_nobody (hkind : trust.kind = .allowlist)
    (hvalid : trust.validate = .ok ())
    (hmapped : ∀ address, trust.Lists address → address.IsMapped) :
    ∃ zone, trust.zone = .ok zone ∧ ∀ peer, zone.admits peer = false := by
  obtain ⟨zone, hzone, hunknown, hadmits⟩ := exists_zone hkind hvalid
  refine ⟨zone, hzone, ?_⟩
  intro peer
  cases peer with
  | none => exact hunknown
  | some peer =>
      rw [Bool.eq_false_iff, Ne, hadmits]
      intro hlists
      exact peer.not_isMapped_canonical (hmapped _ hlists)

/-- An accepted list trusts the peers at the addresses that its entries denote, in either form of
an address of four bytes, and nobody else.  An entry in the mapped form adds nobody: its address is
trusted only if another entry denotes the four bytes. -/
theorem accepted_list_trusts_listed_peers (trust : Trust) (hkind : trust.kind = .allowlist)
    (hvalid : trust.validate = .ok ()) :
    ∃ zone, trust.zone = .ok zone ∧
      (∀ entry ∈ trust.peers, ∃ address, peerAddress entry = .ok address ∧
        (∀ written : Address, Text.trim entry = written.toText → address = written) ∧
        (¬ address.IsMapped →
          ∀ peer, peer.canonical = address.canonical → zone.admits (some peer) = true) ∧
        ∀ inner, address = .v6 (.ofIPv4 inner) →
          (zone.admits (some address) = true ↔ trust.Lists (.v4 inner))) ∧
      (∀ peer, zone.admits (some peer) = true → trust.Lists peer.canonical) ∧
      zone.admits none = false := by
  obtain ⟨zone, hzone, hunknown, hadmits⟩ := exists_zone hkind hvalid
  refine ⟨zone, hzone, ?_, fun peer => (hadmits peer).1, hunknown⟩
  intro entry hentry
  obtain ⟨address, haddress⟩ := exists_address hvalid hentry
  refine ⟨address, haddress, ?_, ?_, ?_⟩
  · intro written hwritten
    exact Except.ok.inj (haddress.symm.trans (peerAddress_of_trim hwritten))
  · intro hmapped peer hpeer
    rw [hadmits, hpeer, Address.canonical_eq_self hmapped]
    exact ⟨entry, hentry, haddress⟩
  · rintro inner rfl
    rw [hadmits, Address.canonical_ofIPv4]

/-- Of three entries one is in the mapped form. -/
theorem two_of_three_entries_are_trusted :
    let trust : Trust := ⟨.allowlist, ["10.0.0.5", " ::1 ", "::ffff:10.0.0.6"]⟩
    trust.kind = .allowlist ∧ trust.validate = .ok () ∧
      ∃ zone, trust.zone = .ok zone ∧
        zone.admits (some (.v4 ⟨10, 0, 0, 5⟩)) = true ∧
        zone.admits (some (.v6 (.ofIPv4 ⟨10, 0, 0, 5⟩))) = true ∧
        zone.admits (some (.v6 IPv6.loopback)) = true ∧
        zone.admits (some (.v4 ⟨10, 0, 0, 6⟩)) = false ∧
        zone.admits (some (.v6 (.ofIPv4 ⟨10, 0, 0, 6⟩))) = false := by
  intro trust
  have hvalid : trust.validate = .ok () := by decide +kernel
  obtain ⟨zone, hzone, hentries, hlisted, -⟩ := accepted_list_trusts_listed_peers trust rfl hvalid
  have hfirst : ∀ peer : Address, peer.canonical = .v4 ⟨10, 0, 0, 5⟩ →
      zone.admits (some peer) = true := by
    obtain ⟨address, -, hwritten, htrusted, -⟩ := hentries "10.0.0.5" (by decide)
    obtain rfl := hwritten (.v4 ⟨10, 0, 0, 5⟩) (by decide +kernel)
    exact htrusted nofun
  have hsecond : zone.admits (some (.v6 IPv6.loopback)) = true := by
    obtain ⟨address, -, hwritten, htrusted, -⟩ := hentries " ::1 " (by decide)
    obtain rfl := hwritten (.v6 IPv6.loopback) (by decide +kernel)
    refine htrusted ?_ _ rfl
    rintro ⟨inner, hinner⟩
    cases IPv6.mapped?_eq_some_iff.2 (Address.v6.inj hinner)
  have hthird : ¬ trust.Lists (.v4 ⟨10, 0, 0, 6⟩) := by decide +kernel
  have hmapped := Address.canonical_ofIPv4 ⟨10, 0, 0, 6⟩
  refine ⟨rfl, hvalid, zone, hzone, hfirst _ rfl, hfirst _ (Address.canonical_ofIPv4 _), hsecond,
    ?_, ?_⟩
  · exact Bool.eq_false_iff.2 fun h => hthird (hlisted _ h)
  · exact Bool.eq_false_iff.2 fun h => hthird (hmapped ▸ hlisted _ h)

/-- The address that the entry denotes is not trusted, nor are its four bytes. -/
theorem mapped_entry_is_not_trusted :
    let trust : Trust := ⟨.allowlist, ["::ffff:10.0.0.5"]⟩
    let address : Address := .v6 (.ofIPv4 ⟨10, 0, 0, 5⟩)
    trust.validate = .ok () ∧ peerAddress "::ffff:10.0.0.5" = .ok address ∧
      ∃ zone, trust.zone = .ok zone ∧ zone.admits (some address) = false ∧
        zone.admits (some (.v4 ⟨10, 0, 0, 5⟩)) = false := by
  intro trust address
  have hvalid : trust.validate = .ok () := by decide +kernel
  have haddress : peerAddress "::ffff:10.0.0.5" = .ok address := by decide +kernel
  have hmapped : ∀ other, trust.Lists other → other.IsMapped := by
    rintro other ⟨entry, hentry, hother⟩
    obtain rfl := List.mem_singleton.1 hentry
    rw [haddress] at hother
    exact ⟨_, (Except.ok.inj hother).symm⟩
  obtain ⟨zone, hzone, hnobody⟩ := mapped_entries_trust_nobody rfl hvalid hmapped
  exact ⟨hvalid, haddress, zone, hzone, hnobody _, hnobody _⟩

end Trust

end Settings

end FoodOrdering
