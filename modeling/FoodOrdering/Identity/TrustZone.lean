import FoodOrdering.Network.Address

/-!
# Trusted peers

Identity headers are worth as much as the network they arrive from.  A zone says which peers may
send them; a peer's mapped address counts as the address of four bytes that it stands for.
-/

namespace FoodOrdering

/-- The address of four bytes behind a mapped address, any other address as it is. -/
def Address.canonical : Address → Address
  | .v4 address => .v4 address
  | .v6 address =>
      match address.mapped? with
      | some inner => .v4 inner
      | none => .v6 address

/-- Loopback, private or link-local. -/
def IPv4.isPrivate (address : IPv4) : Bool :=
  address.a == 127 || address.a == 10 || (address.a == 172 && address.b &&& 0xf0 == 16) ||
    (address.a == 192 && address.b == 168) || (address.a == 169 && address.b == 254)

def IPv6.loopback : IPv6 := ⟨#v[0, 0, 0, 0, 0, 0, 0, 1]⟩

/-- Loopback, unique local or link-local. -/
def IPv6.isPrivate (address : IPv6) : Bool :=
  address == IPv6.loopback || address.groups[0] &&& 0xfe00 == 0xfc00 ||
    address.groups[0] &&& 0xffc0 == 0xfe80

def Address.isPrivate (address : Address) : Bool :=
  match address.canonical with
  | .v4 inner => inner.isPrivate
  | .v6 inner => inner.isPrivate

/-- Where identity headers are accepted from. -/
inductive TrustZone where
  /-- From every peer, known or not. -/
  | any
  /-- From loopback, private and link-local peers. -/
  | privateNetwork
  /-- From the listed peers. -/
  | allowlist (peers : List Address)
  deriving DecidableEq, Repr

namespace TrustZone

def name : TrustZone → String
  | .any => "any"
  | .privateNetwork => "private_network"
  | .allowlist _ => "allowlist"

/-- A request from this peer may carry identity headers. -/
def admits (zone : TrustZone) (peer : Option Address) : Bool :=
  match zone, peer with
  | .any, _ => true
  | _, none => false
  | .privateNetwork, some address => address.isPrivate
  | .allowlist peers, some address => peers.contains address.canonical

end TrustZone

end FoodOrdering
