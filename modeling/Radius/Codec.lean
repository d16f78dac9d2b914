import Radius.Bytes
import Radius.Packet
import Radius.Password
import Radius.Text.Digits
import Radius.Text.Parts

/-!
# `Radius.Codec`: values and their bytes

A codec turns the bytes of an attribute into a value of one kind and back. It may also
render values as text in its own way, and it may normalize values before they are stored in
a packet. The codecs here are those of the standard attributes: text, octets, integers,
addresses and the hidden password. All five normalize; integers alone render.
-/

set_option autoImplicit false

namespace Radius

/-- How the bytes of an attribute become a value and back. Both ways see the packet that is
read or written, for the sake of codecs that are keyed with it. -/
structure Codec where
  /-- The kind of value that the codec reads. -/
  kind : Value.Kind
  decode : Packet → List UInt8 → Except CodecError Value
  encode : Packet → Value → Except CodecError (List UInt8)
  /-- The codec's own way to render a value as text. -/
  render? : Option (Value → String) := none
  /-- What the codec makes of a value before it is stored. -/
  normalize? : Option (Value → Except CodecError Value) := none

namespace Codec

/-- The codec without its rendering and its normalization. -/
def bare (codec : Codec) : Codec :=
  { codec with render? := none, normalize? := none }

/-- A value of another kind was expected. -/
def unexpected (expected : Value.Kind) (value : Value) : CodecError :=
  .unexpectedValue expected value.kind

/-! ### Text -/

/-- Bytes as text. -/
def textOfBytes (bytes : List UInt8) : Except CodecError Value :=
  match Utf8.toString? bytes with
  | some text => .ok (.text text)
  | none => .error .invalidUtf8

/-- A value as text: text itself, and octets that spell text. -/
def normalizeText : Value → Except CodecError Value
  | .text text => .ok (.text text)
  | .bytes bytes => textOfBytes bytes
  | value => .error (unexpected .text value)

/-- Text is its UTF-8 bytes. -/
def text : Codec where
  kind := .text
  decode _ bytes := textOfBytes bytes
  encode _
    | .text text => .ok (Utf8.ofString text)
    | .bytes bytes => .ok bytes
    | value => .error (unexpected .text value)
  normalize? := some normalizeText

/-! ### Octets -/

/-- A value as octets: octets themselves, and the bytes of text. -/
def normalizeOctets : Value → Except CodecError Value
  | .bytes bytes => .ok (.bytes bytes)
  | .text text => .ok (.bytes (Utf8.ofString text))
  | value => .error (unexpected .bytes value)

/-- Octets are their own bytes. -/
def octets : Codec where
  kind := .bytes
  decode _ bytes := .ok (.bytes bytes)
  encode _
    | .bytes bytes => .ok bytes
    | .text text => .ok (Utf8.ofString text)
    | value => .error (unexpected .bytes value)
  normalize? := some normalizeOctets

/-! ### Integers -/

/-- The number of thirty-two bits that a text spells between blanks, with or without a plus sign
before it. -/
def readInteger? (text : List Char) : Option UInt32 :=
  match Decimal.unsigned? (Text.trim text) with
  | some number => if number < UInt32.size then some (UInt32.ofNat number) else none
  | none => none

/-- A value as a number: a number itself, and text that spells one. -/
def normalizeInteger : Value → Except CodecError Value
  | .integer number => .ok (.integer number)
  | .text text =>
    match readInteger? text.toList with
    | some number => .ok (.integer number)
    | none => .error (.invalidInteger text)
  | value => .error (unexpected .integer value)

/-- The decimal text of a number. Values of other kinds have none. -/
def renderInteger : Value → String
  | .integer number => Decimal.text number.toNat
  | _ => ""

/-- An integer is four bytes, most significant first. -/
def integer : Codec where
  kind := .integer
  decode _ bytes :=
    if bytes.length = 4 then .ok (.integer (UInt32.ofNat (bigEndianValue bytes)))
    else .error (.invalidLength 4 bytes.length)
  encode _
    | .integer number => .ok (bigEndian 4 number.toNat)
    | value => .error (unexpected .integer value)
  render? := some renderInteger
  normalize? := some normalizeInteger

/-! ### Addresses -/

/-- Bytes as an address. -/
def addressOfBytes (bytes : List UInt8) : Except CodecError Value :=
  match V4.ofBytes? bytes with
  | some address => .ok (.address address)
  | none => .error (.invalidLength 4 bytes.length)

/-- A value as an address: an address itself, its four bytes, and text that spells one
between blanks. -/
def normalizeAddress : Value → Except CodecError Value
  | .address address => .ok (.address address)
  | .bytes bytes => addressOfBytes bytes
  | .text text =>
    match V4.read? (Text.trim text.toList) with
    | some address => .ok (.address address)
    | none => .error (.invalidAddress text)
  | value => .error (unexpected .address value)

/-- An address is its four bytes. -/
def address : Codec where
  kind := .address
  decode _ bytes := addressOfBytes bytes
  encode _
    | .address address => .ok address.bytes
    | value => .error (unexpected .address value)
  normalize? := some normalizeAddress

/-! ### Hidden passwords -/

/-- A password is text that travels hidden, keyed with the secret and the authenticator of
its packet. Without a secret it can be neither hidden nor revealed. -/
def userPassword [Digest] : Codec where
  kind := .text
  decode packet bytes :=
    if packet.secret.isEmpty then .error .missingSecret
    else (Password.reveal bytes packet.secret packet.authenticator).map .text
  encode packet value :=
    if packet.secret.isEmpty then .error .missingSecret
    else
      match value with
      | .text text => .ok (Password.hide (Utf8.ofString text) packet.secret packet.authenticator)
      | .bytes bytes => .ok (Password.hide bytes packet.secret packet.authenticator)
      | value => .error (unexpected .text value)
  normalize? := some normalizeText

end Codec

end Radius
