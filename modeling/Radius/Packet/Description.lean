import Radius.Dictionary
import Radius.Packet
import Radius.Text.Digits
import Radius.Text.Quoted

/-!
# `Radius.Packet.Description`: packets and dictionaries in one line

The description of a packet shows its code, identifier, authenticator and attributes, each
value with its kind. The secret and the bytes that the packet was read from are left out
(`description_of_otherSecret`). Of a dictionary the number of types is shown.
-/

set_option autoImplicit false

namespace Radius

/-- The name of a code in one word, as packet descriptions show it. -/
def Code.word : Code → String
  | .accessRequest => "AccessRequest"
  | .accessAccept => "AccessAccept"
  | .accessReject => "AccessReject"
  | .accountingRequest => "AccountingRequest"
  | .accountingResponse => "AccountingResponse"
  | .accessChallenge => "AccessChallenge"
  | .statusServer => "StatusServer"
  | .statusClient => "StatusClient"
  | .disconnectRequest => "DisconnectRequest"
  | .disconnectAck => "DisconnectAck"
  | .disconnectNak => "DisconnectNak"
  | .coaRequest => "CoaRequest"
  | .coaAck => "CoaAck"
  | .coaNak => "CoaNak"
  | .reserved => "Reserved"
  | .unknown byte => Code.unknownText byte

/-- Texts between brackets, with commas between them. -/
def bracketed (items : List String) : String :=
  "[" ++ ", ".intercalate items ++ "]"

/-- Bytes as decimal numbers between brackets. -/
def describeBytes (bytes : List UInt8) : String :=
  bracketed (bytes.map fun byte => Decimal.text byte.toNat)

/-- A value with its kind. -/
def Value.description : Value → String
  | .text content => "Text(" ++ String.ofList (Text.quoted '"' content.toList) ++ ")"
  | .bytes content => "Bytes(" ++ describeBytes content ++ ")"
  | .integer content => "Integer(" ++ Decimal.text content.toNat ++ ")"
  | .address content => "Address(" ++ content.text ++ ")"

/-- An attribute with its type. -/
def Attribute.description (attr : Attribute) : String :=
  "Attribute \x7b attr_type: " ++ Decimal.text attr.type.toNat
    ++ ", value: " ++ attr.value.description ++ " \x7d"

/-- A packet in one line. -/
def Packet.description (packet : Packet) : String :=
  "Packet \x7b code: " ++ packet.code.word
    ++ ", identifier: " ++ Decimal.text packet.identifier.toNat
    ++ ", authenticator: " ++ describeBytes packet.authenticator.bytes
    ++ ", attributes: " ++ bracketed (packet.attributes.map Attribute.description)
    ++ ", .. \x7d"

/-- Neither the secret of a packet nor the bytes that it was read from make a difference to its
description. -/
theorem Packet.description_of_otherSecret (packet : Packet) (secret : List UInt8)
    (raw : Option (List UInt8)) :
    ({ packet with secret, raw } : Packet).description = packet.description :=
  rfl

/-- A dictionary in one line. -/
def Dictionary.description (dictionary : Dictionary) : String :=
  "StandardDictionary \x7b attributes: " ++ Decimal.text dictionary.size ++ " \x7d"

end Radius
