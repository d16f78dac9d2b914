import Radius.Packet.Wire

/-!
# `Radius.Packet.Authenticity`: whether a reply answers its request

A reply is sealed with a digest over its own bytes, seeded by the request and keyed with the
secret. `isAuthentic` writes the reply again, digests what it wrote with the request's seed
and secret, and compares with the authenticator that the reply carries.
-/

set_option autoImplicit false

namespace Radius

/-- The seed of the digest that a packet with this code is checked with, against a request
that holds the given authenticator. Only some codes can be checked. -/
def Code.checkSeed? (request : Block) : Code → Option Block
  | .accountingRequest => some .zero
  | .accessAccept | .accessReject | .accessChallenge
  | .coaAck | .coaNak | .disconnectAck | .disconnectNak => some request
  | _ => none

namespace Packet

variable [Digest]

/-- The packet carries the digest that the request and the secret call for. A packet that
cannot be written is not authentic. -/
def isAuthentic (dictionary : Dictionary) (reply request : Packet) : Bool :=
  match reply.code.checkSeed? request.authenticator with
  | none => false
  | some seed =>
    match reply.wire dictionary with
    | .error _ => false
    | .ok wire =>
      decide (sealed (wire.take 4) seed (wire.drop 20) request.secret = reply.authenticator)

/-- The authenticator that the packet would carry on the wire. It is defined for the
exchanges that change or end a session only. -/
def responseAuthenticator (dictionary : Dictionary) (packet : Packet) :
    Except PacketError Block :=
  if packet.code.isDynamic then
    match packet.records dictionary with
    | .error cause => .error cause
    | .ok records =>
      match packet.header records.length with
      | .error cause => .error cause
      | .ok header => packet.authenticatorField header records
  else .error (.unknownCode packet.code.toByte)

end Packet

end Radius
