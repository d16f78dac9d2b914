import Radius.Value

/-!
# `Radius.Error`: what can go wrong with a packet

Each stage has its causes: a codec refuses a value, a dictionary refuses a name or a value,
a packet cannot be read or written. The wording of a cause is in one function per type.
-/

set_option autoImplicit false

namespace Radius

/-- Why a codec refuses bytes or a value. -/
inductive CodecError
  | invalidLength (expected actual : Nat)
  | unexpectedValue (expected actual : Value.Kind)
  | invalidUtf8
  | invalidAddress (text : String)
  | invalidInteger (text : String)
  | invalidPasswordLength (length : Nat)
  | missingSecret
  deriving DecidableEq, Repr

/-- The wording of a codec's refusal. -/
def CodecError.message : CodecError → String
  | .invalidLength expected actual =>
    s!"Invalid value length: expected {expected} bytes, got {actual}"
  | .unexpectedValue expected actual =>
    s!"Unexpected value kind: expected {expected.name}, got {actual.name}"
  | .invalidUtf8 => "Invalid UTF-8 in text value"
  | .invalidAddress text => s!"Invalid IPv4 address: {text}"
  | .invalidInteger text => s!"Invalid integer: {text}"
  | .invalidPasswordLength length => s!"Invalid hidden password length: {length} bytes"
  | .missingSecret => "Shared secret required to hide or reveal User-Password"

/-- Why a dictionary makes no attribute of a name and a value. -/
inductive DictionaryError
  | invalidName (name : String)
  | invalidValue (name : String) (cause : CodecError)
  deriving DecidableEq, Repr

/-- The wording of a dictionary's refusal. -/
def DictionaryError.message : DictionaryError → String
  | .invalidName name => s!"Unknown attribute name: {name}"
  | .invalidValue name cause => s!"Invalid value for {name}: {cause.message}"

/-- Why a packet cannot be made, read or written. -/
inductive PacketError
  | tooShort (length : Nat)
  | invalidLength (length : Nat)
  | recordTooShort (remaining : Nat)
  | invalidAttributeLength (length : UInt8)
  | codec (cause : CodecError)
  | attributeTooLong (type : UInt8) (length : Nat)
  | packetTooLong (length : Nat)
  | unknownCode (byte : UInt8)
  | entropyUnavailable
  | dictionary (cause : DictionaryError)
  deriving DecidableEq, Repr

/-- The wording of a packet's fault. -/
def PacketError.message : PacketError → String
  | .tooShort length => s!"Packet too short: {length} bytes (minimum 20)"
  | .invalidLength length => s!"Invalid packet length: {length}"
  | .recordTooShort remaining => s!"Attribute record too short: {remaining} bytes remaining"
  | .invalidAttributeLength length => s!"Invalid attribute length: {length.toNat}"
  | .codec cause => cause.message
  | .attributeTooLong type length =>
    s!"Encoded attribute {type.toNat} too long: {length} bytes (max 253)"
  | .packetTooLong length => s!"Encoded packet too long: {length} bytes (max 4095)"
  | .unknownCode byte => s!"Unknown packet code: {byte.toNat}"
  | .entropyUnavailable => "Not enough entropy to generate identifier and authenticator"
  | .dictionary cause => cause.message

end Radius
