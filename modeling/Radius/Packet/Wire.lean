import Radius.Bytes
import Radius.Dictionary

/-!
# `Radius.Packet.Wire`: packets as bytes

A packet on the wire is a header of four bytes (code, identifier and the length of the
whole), the authenticator, and the attributes as records of type, length and value.

Two readers check that the declared length is in range. `decode` then reads every byte after
the header as attributes; `decodeStrict` reads the declared length only, refuses bytes that
fall short of it and takes what follows for padding. Both go through the records from the
left and stop at the first fault.

`wire` writes a packet. Faults come in this order: the first attribute that its codec
refuses or that is too long for a record, the length of the whole, a code without a form on
the wire. `encode` returns with the bytes the packet as its sender keeps it.
-/

set_option autoImplicit false

namespace Radius

/-- How a server reads datagrams: the dictionary, the secret and the bytes. -/
abbrev Packet.Reader : Type :=
  Dictionary → List UInt8 → List UInt8 → Except PacketError Packet

namespace Packet

/-! ### Reading -/

/-- The most bytes of an attribute's value. -/
def maxValueLength : Nat := 253

/-- The length that a header declares. -/
def declaredLength (data : List UInt8) : Except PacketError Nat :=
  if data.length < minLength then .error (.tooShort data.length)
  else
    let length := bigEndianValue ((data.drop 2).take 2)
    if length < minLength ∨ maxLength < length then .error (.invalidLength length)
    else .ok length

/-- The packet with the attributes that the remaining bytes hold. -/
def readRecords (dictionary : Dictionary) (packet : Packet) :
    List UInt8 → Except PacketError Packet
  | [] => .ok packet
  | [_] => .error (.recordTooShort 1)
  | type :: length :: rest =>
    if length.toNat < 2 ∨ rest.length + 2 < length.toNat then
      .error (.invalidAttributeLength length)
    else
      match (dictionary.codec type).decode packet (rest.take (length.toNat - 2)) with
      | .error cause => .error (.codec cause)
      | .ok value =>
        readRecords dictionary (packet.append ⟨type, value⟩) (rest.drop (length.toNat - 2))
termination_by data => data.length
decreasing_by
  simp only [List.length_drop, List.length_cons]
  omega

/-- The packet that some bytes hold from the first to the last, whatever length they
declare. -/
def readBody (dictionary : Dictionary) (secret data : List UInt8) : Except PacketError Packet :=
  match data with
  | code :: identifier :: _ :: _ :: rest =>
    readRecords dictionary
      { code := .ofByte code, identifier, authenticator := Block.ofBytes rest, secret,
        raw := some data }
      (rest.drop 16)
  | _ => .error (.tooShort data.length)

/-- Reads a packet and takes every byte after the header for attributes. -/
def decode : Reader := fun dictionary secret data =>
  match declaredLength data with
  | .error cause => .error cause
  | .ok _ => readBody dictionary secret data

/-- Reads a packet of the declared length and takes what follows it for padding. -/
def decodeStrict : Reader := fun dictionary secret data =>
  match declaredLength data with
  | .error cause => .error cause
  | .ok length =>
    if data.length < length then .error (.invalidLength length)
    else readBody dictionary secret (data.take length)

/-! ### Writing -/

/-- The record of a type and the bytes of a value. -/
def record (type : UInt8) (value : List UInt8) : List UInt8 :=
  type :: UInt8.ofNat (value.length + 2) :: value

/-- The bytes of an attribute's value, if they fit into a record. -/
def encodeValue (dictionary : Dictionary) (packet : Packet) (attr : Attribute) :
    Except PacketError (List UInt8) :=
  match (dictionary.codec attr.type).encode packet attr.value with
  | .error cause => .error (.codec cause)
  | .ok value =>
    if maxValueLength < value.length then .error (.attributeTooLong attr.type value.length)
    else .ok value

/-- The records of some attributes, in order. -/
def recordsOf (dictionary : Dictionary) (packet : Packet) :
    List Attribute → Except PacketError (List UInt8)
  | [] => .ok []
  | attr :: rest =>
    match encodeValue dictionary packet attr with
    | .error cause => .error cause
    | .ok value =>
      match recordsOf dictionary packet rest with
      | .error cause => .error cause
      | .ok records => .ok (record attr.type value ++ records)

/-- The records of a packet's attributes. -/
def records (dictionary : Dictionary) (packet : Packet) : Except PacketError (List UInt8) :=
  recordsOf dictionary packet packet.attributes

/-- The header of a packet that carries so many bytes of attributes. -/
def header (packet : Packet) (attributesLength : Nat) : Except PacketError (List UInt8) :=
  let length := minLength + attributesLength
  if maxLength < length then .error (.packetTooLong length)
  else .ok (packet.code.toByte :: packet.identifier :: bigEndian 2 length)

section
variable [Digest]

/-- The digest that seals a packet, keyed with the secret. -/
def sealed (header : List UInt8) (seed : Block) (records secret : List UInt8) : Block :=
  Digest.hash (header ++ seed.bytes ++ records ++ secret)

/-- The authenticator field on the wire. -/
def authenticatorField (packet : Packet) (header records : List UInt8) :
    Except PacketError Block :=
  match packet.code.sealing with
  | .stored => .ok packet.authenticator
  | .zeroSeeded => .ok (sealed header .zero records packet.secret)
  | .ownSeeded => .ok (sealed header packet.authenticator records packet.secret)
  | .unsealable => .error (.unknownCode packet.code.toByte)

/-- The bytes of a packet. -/
def wire (dictionary : Dictionary) (packet : Packet) : Except PacketError (List UInt8) :=
  match packet.records dictionary with
  | .error cause => .error cause
  | .ok records =>
    match packet.header records.length with
    | .error cause => .error cause
    | .ok header =>
      match packet.authenticatorField header records with
      | .error cause => .error cause
      | .ok authenticator => .ok (header ++ authenticator.bytes ++ records)

/-- The packet as its sender keeps it after sending these bytes. Replies to some requests are
checked against the digest that the request carried, so it takes the place of the
authenticator. -/
def sent (packet : Packet) (wire : List UInt8) : Packet :=
  if packet.code.keepsDigest then { packet with authenticator := Block.ofBytes (wire.drop 4) }
  else packet

/-- The bytes of a packet, and the packet as its sender keeps it. -/
def encode (dictionary : Dictionary) (packet : Packet) :
    Except PacketError (List UInt8 × Packet) :=
  match packet.wire dictionary with
  | .error cause => .error cause
  | .ok wire => .ok (wire, packet.sent wire)

end

end Packet

end Radius
