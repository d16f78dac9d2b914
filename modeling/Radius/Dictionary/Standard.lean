import Radius.Dictionary
import Radius.Text.Parts

/-!
# `Radius.Dictionary.Standard`: the standard attributes

Each standard attribute has a type number, a name and a type of data. `AttributeType.all`
is the table of them, in ascending order of number; numbers and names in it are distinct.
In `Dictionary.standard` every one of them is registered with the codec of its data; the
password alone has one of its own.
-/

set_option autoImplicit false

namespace Radius

/-! ### The table of attributes -/

/-- The data that a standard attribute carries. -/
inductive DataType
  | text
  | octets
  | address
  | integer
  deriving DecidableEq, Repr

/-- The name of a type of data. -/
def DataType.name : DataType → String
  | .text => "Text"
  | .octets => "Octets"
  | .address => "Address"
  | .integer => "Integer"

/-- A standard attribute: its type number, its name and the data that it carries. -/
structure AttributeType where
  number : UInt8
  name : String
  dataType : DataType
  deriving DecidableEq, Repr

namespace AttributeType

/-- The standard attributes, in ascending order of number. -/
def all : List AttributeType := [
  ⟨1, "User-Name", .text⟩,
  ⟨2, "User-Password", .octets⟩,
  ⟨3, "CHAP-Password", .octets⟩,
  ⟨4, "NAS-IP-Address", .address⟩,
  ⟨5, "NAS-Port", .integer⟩,
  ⟨6, "Service-Type", .integer⟩,
  ⟨7, "Framed-Protocol", .integer⟩,
  ⟨8, "Framed-IP-Address", .address⟩,
  ⟨9, "Framed-IP-Netmask", .address⟩,
  ⟨10, "Framed-Routing", .integer⟩,
  ⟨11, "Filter-Id", .text⟩,
  ⟨12, "Framed-MTU", .integer⟩,
  ⟨13, "Framed-Compression", .integer⟩,
  ⟨14, "Login-IP-Host", .address⟩,
  ⟨15, "Login-Service", .integer⟩,
  ⟨16, "Login-TCP-Port", .integer⟩,
  ⟨18, "Reply-Message", .text⟩,
  ⟨19, "Callback-Number", .text⟩,
  ⟨20, "Callback-Id", .text⟩,
  ⟨22, "Framed-Route", .text⟩,
  ⟨23, "Framed-IPX-Network", .integer⟩,
  ⟨24, "State", .octets⟩,
  ⟨25, "Class", .octets⟩,
  ⟨26, "Vendor-Specific", .octets⟩,
  ⟨27, "Session-Timeout", .integer⟩,
  ⟨28, "Idle-Timeout", .integer⟩,
  ⟨29, "Termination-Action", .integer⟩,
  ⟨30, "Called-Station-Id", .text⟩,
  ⟨31, "Calling-Station-Id", .text⟩,
  ⟨32, "NAS-Identifier", .text⟩,
  ⟨33, "Proxy-State", .octets⟩,
  ⟨34, "Login-LAT-Service", .text⟩,
  ⟨35, "Login-LAT-Node", .text⟩,
  ⟨36, "Login-LAT-Group", .octets⟩,
  ⟨37, "Framed-AppleTalk-Link", .integer⟩,
  ⟨38, "Framed-AppleTalk-Network", .integer⟩,
  ⟨39, "Framed-AppleTalk-Zone", .text⟩,
  ⟨40, "Acct-Status-Type", .integer⟩,
  ⟨41, "Acct-Delay-Time", .integer⟩,
  ⟨42, "Acct-Input-Octets", .integer⟩,
  ⟨43, "Acct-Output-Octets", .integer⟩,
  ⟨44, "Acct-Session-Id", .text⟩,
  ⟨45, "Acct-Authentic", .integer⟩,
  ⟨46, "Acct-Session-Time", .integer⟩,
  ⟨47, "Acct-Input-Packets", .integer⟩,
  ⟨48, "Acct-Output-Packets", .integer⟩,
  ⟨49, "Acct-Terminate-Cause", .integer⟩,
  ⟨50, "Acct-Multi-Session-Id", .text⟩,
  ⟨51, "Acct-Link-Count", .integer⟩,
  ⟨52, "Acct-Input-Gigawords", .integer⟩,
  ⟨53, "Acct-Output-Gigawords", .integer⟩,
  ⟨55, "Event-Timestamp", .integer⟩,
  ⟨60, "CHAP-Challenge", .octets⟩,
  ⟨61, "NAS-Port-Type", .integer⟩,
  ⟨62, "Port-Limit", .integer⟩,
  ⟨63, "Login-LAT-Port", .text⟩,
  ⟨79, "EAP-Message", .octets⟩,
  ⟨80, "Message-Authenticator", .octets⟩,
  ⟨87, "NAS-Port-Id", .text⟩,
  ⟨101, "Error-Cause", .integer⟩]

/-- The standard attribute with a type number. -/
def ofNumber? (number : UInt8) : Option AttributeType :=
  all.find? (·.number == number)

/-- The standard attribute with a name. -/
def ofName? (name : String) : Option AttributeType :=
  all.find? (·.name == name)

/-- One part of a name as it stands inside a single word: a part in capitals keeps only the
first of them. -/
def wordPart (part : List Char) : List Char :=
  match part with
  | [] => []
  | first :: rest => if part.all Char.isUpper then first :: rest.map Char.toLower else part

/-- The name of an attribute in one word. -/
def word (type : AttributeType) : String :=
  String.ofList ((Text.fields '-' type.name.toList).flatMap wordPart)

end AttributeType

/-! ### The dictionary -/

section
variable [Digest]

/-- The type of the attribute that carries a hidden password. -/
def AttributeType.userPassword : UInt8 := 2

/-- The codec of a standard attribute. -/
def AttributeType.codec (type : AttributeType) : Codec :=
  if type.number = AttributeType.userPassword then .userPassword
  else
    match type.dataType with
    | .text => .text
    | .octets => .octets
    | .address => .address
    | .integer => .integer

/-- The dictionary of the standard attributes. -/
def Dictionary.standard : Dictionary :=
  AttributeType.all.foldl
    (fun dictionary type =>
      dictionary.register type.number type.name type.codec)
    .empty

end

end Radius
