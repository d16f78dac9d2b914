import Radius.Address

/-!
# `Radius.Address.Network`: networks of addresses

A network is an address and the number of leading bits that its members share with it. The
bits of the address past that number are kept for display and play no part in membership.
In text the number follows a slash; a bare address is the network of itself alone, and an
IPv4 network may carry a mask of leading ones in place of the number.
-/

set_option autoImplicit false

namespace Radius

/-- An address and how many of its leading bits count. -/
structure Network where
  address : Address
  length : Nat
  length_le : length ≤ address.width
  deriving DecidableEq

namespace Network

/-- The network that holds one address alone. -/
def host (address : Address) : Network :=
  ⟨address, address.width, Nat.le_refl _⟩

/-- The network of an address and a number of leading bits, if the address has that many. -/
def ofLength? (address : Address) (length : Nat) : Option Network :=
  if h : length ≤ address.width then some ⟨address, length, h⟩ else none

/-- The first `length` bits of an address, as a number. -/
def leading (address : Address) (length : Nat) : Nat :=
  address.toNat >>> (address.width - length)

/-- The address is of the network's family and begins with its leading bits. -/
def contains (network : Network) (address : Address) : Bool :=
  network.address.sameFamily address
    && leading network.address network.length == leading address network.length

/-- The number of leading ones of a mask that has no other ones. -/
def maskLength? (mask : V4) : Option Nat :=
  (List.range 33).find? fun length => mask.toNat == UInt32.size - (1 <<< (32 - length))

/-- The number of leading bits that stands after the slash of an IPv4 network. -/
def lengthV4? (text : List Char) : Option Nat :=
  match V4.read? text with
  | some mask => maskLength? mask
  | none => Decimal.unsigned? text

/-- The network that a text spells. -/
def read? (text : List Char) : Option Network :=
  match Text.fields '/' text with
  | [address] => (Address.read? address).map host
  | [address, length] =>
    match Address.read? address with
    | some (.v4 address) => (lengthV4? length).bind (ofLength? (.v4 address))
    | some (.v6 address) => (Decimal.unsigned? length).bind (ofLength? (.v6 address))
    | none => none
  | _ => none

/-- The text of a network: its address with all bits, a slash and the number. -/
def text (network : Network) : String :=
  network.address.text ++ "/" ++ Decimal.text network.length

end Network

end Radius
