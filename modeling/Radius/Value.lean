import Radius.Address.V4

/-!
# `Radius.Value`: attribute values

A decoded attribute holds text, octets, a number of thirty-two bits or an IPv4 address.
-/

set_option autoImplicit false

namespace Radius

/-- The value of an attribute. -/
inductive Value
  | text (content : String)
  | bytes (content : List UInt8)
  | integer (content : UInt32)
  | address (content : V4)
  deriving DecidableEq, Repr

namespace Value

/-- The kinds of values. -/
inductive Kind
  | text
  | bytes
  | integer
  | address
  deriving DecidableEq, Repr

/-- The name of a kind. -/
def Kind.name : Kind → String
  | .text => "Text"
  | .bytes => "Bytes"
  | .integer => "Integer"
  | .address => "Address"

/-- The kind of a value. -/
def kind : Value → Kind
  | .text _ => .text
  | .bytes _ => .bytes
  | .integer _ => .integer
  | .address _ => .address

/-- The text of a value that is text. -/
def text? : Value → Option String
  | .text content => some content
  | _ => none

/-- The octets of a value that is octets. -/
def bytes? : Value → Option (List UInt8)
  | .bytes content => some content
  | _ => none

/-- The number of a value that is a number. -/
def integer? : Value → Option UInt32
  | .integer content => some content
  | _ => none

/-- The address of a value that is an address. -/
def address? : Value → Option V4
  | .address content => some content
  | _ => none

/-- The text that a value has by itself, whatever codec it came through. Only addresses have
one. -/
def rendered? : Value → Option String
  | .address content => some content.text
  | _ => none

end Value

end Radius
