import Radius.Address.V4
import Radius.Address.V6

/-!
# `Radius.Address`: addresses of either family
-/

set_option autoImplicit false

namespace Radius

/-- The address of a peer. -/
inductive Address
  | v4 (address : V4)
  | v6 (address : V6)
  deriving DecidableEq, Inhabited

namespace Address

/-- The number of bits of an address. -/
def width : Address → Nat
  | .v4 _ => 32
  | .v6 _ => 128

/-- The address as a number of `width` bits. -/
def toNat : Address → Nat
  | .v4 address => address.toNat
  | .v6 address => address.toNat

/-- The text of an address. -/
def text : Address → String
  | .v4 address => address.text
  | .v6 address => address.text

/-- The address of either family that a text spells. -/
def read? (text : List Char) : Option Address :=
  match V4.read? text with
  | some address => some (.v4 address)
  | none => (V6.read? text).map .v6

/-- The two addresses belong to one family. -/
def sameFamily : Address → Address → Bool
  | .v4 _, .v4 _ | .v6 _, .v6 _ => true
  | _, _ => false

end Address

end Radius
