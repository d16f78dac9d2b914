import Radius.Block
import Radius.Code
import Radius.Value

/-!
# `Radius.Packet`: packets

A packet holds what its header says, the secret that it is keyed with and its attributes in
wire order. The secret is never written to the wire. Names and codecs come from a
dictionary, which the operations of the other modules take beside the packet.
-/

set_option autoImplicit false

namespace Radius

/-- An attribute: its type number and its decoded value. -/
structure Attribute where
  type : UInt8
  value : Value
  deriving DecidableEq, Repr

/-- A packet. -/
structure Packet where
  code : Code
  /-- The number that matches replies to requests. -/
  identifier : UInt8
  /-- Random bytes in a request that asks for access, a keyed digest in most other packets. -/
  authenticator : Block
  /-- The secret that both ends share. -/
  secret : List UInt8
  /-- The bytes that the packet was read from. -/
  raw : Option (List UInt8) := none
  /-- The attributes, in wire order. -/
  attributes : List Attribute := []
  deriving DecidableEq, Repr

namespace Packet

/-- The fewest bytes of a packet: code, identifier, length and authenticator. -/
def minLength : Nat := 20

/-- The most bytes of a packet. -/
def maxLength : Nat := 4095

/-- The packet with one more attribute at the end. -/
def append (packet : Packet) (attr : Attribute) : Packet :=
  { packet with attributes := packet.attributes ++ [attr] }

/-- The packet with more attributes at the end. -/
def appendAll (packet : Packet) (attributes : List Attribute) : Packet :=
  { packet with attributes := packet.attributes ++ attributes }

/-- The packet without attributes. -/
def clear (packet : Packet) : Packet :=
  { packet with attributes := [] }

/-- The packet without the attributes of one type. -/
def removeType (packet : Packet) (type : UInt8) : Packet :=
  { packet with attributes := packet.attributes.filter (·.type != type) }

end Packet

end Radius
