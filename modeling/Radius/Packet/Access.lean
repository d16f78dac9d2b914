import Radius.Dictionary

/-!
# `Radius.Packet.Access`: attributes by name

Attributes are found by the name that the dictionary gives their type; an attribute whose
type has no name is never found. `add` appends an attribute, `set` replaces the value of the
first one of a name and adds one if there is none. Both let the codec normalize the value.
-/

set_option autoImplicit false

namespace Radius.Packet

/-- The dictionary gives the attribute's type this name. -/
def hasName (dictionary : Dictionary) (name : String) (attr : Attribute) : Bool :=
  dictionary.name? attr.type == some name

/-- The first attribute of a name. -/
def find? (dictionary : Dictionary) (packet : Packet) (name : String) : Option Attribute :=
  packet.attributes.find? (hasName dictionary name)

/-- The value of the first attribute of a name. -/
def value? (dictionary : Dictionary) (packet : Packet) (name : String) : Option Value :=
  (packet.find? dictionary name).map Attribute.value

/-- The values of all attributes of a name, in order. -/
def values (dictionary : Dictionary) (packet : Packet) (name : String) : List Value :=
  (packet.attributes.filter (hasName dictionary name)).map Attribute.value

/-- The text of the first attribute of a name, empty if there is none. -/
def text (dictionary : Dictionary) (packet : Packet) (name : String) : String :=
  match packet.find? dictionary name with
  | some attr => dictionary.render attr
  | none => ""

/-- The packet with an attribute of a name and a value at the end. -/
def add (dictionary : Dictionary) (packet : Packet) (name : String) (value : Value) :
    Except PacketError Packet :=
  match dictionary.resolve name value with
  | .ok attr => .ok (packet.append attr)
  | .error cause => .error (.dictionary cause)

/-- What a codec stores for a value in place of an earlier one. A codec that does not
normalize stores it as it is, whatever its kind. -/
def replacement (codec : Codec) (name : String) (value : Value) :
    Except PacketError Value :=
  match codec.normalize? with
  | none => .ok value
  | some normalize =>
    match normalize value with
    | .ok value => .ok value
    | .error cause => .error (.dictionary (.invalidValue name cause))

/-- The attributes with the value of the first one of a name replaced, if there is one. -/
def replaceFirst (dictionary : Dictionary) (name : String) (value : Value) :
    List Attribute → Option (Except PacketError (List Attribute))
  | [] => none
  | attr :: rest =>
    if hasName dictionary name attr then
      match replacement (dictionary.codec attr.type) name value with
      | .ok stored => some (.ok ({ attr with value := stored } :: rest))
      | .error cause => some (.error cause)
    else (replaceFirst dictionary name value rest).map fun result => result.map (attr :: ·)

/-- The packet with a value in the first attribute of a name, added if there is none. -/
def set (dictionary : Dictionary) (packet : Packet) (name : String) (value : Value) :
    Except PacketError Packet :=
  match replaceFirst dictionary name value packet.attributes with
  | some (.ok attributes) => .ok { packet with attributes }
  | some (.error cause) => .error cause
  | none => packet.add dictionary name value

/-- The user and the password of a request for access that carries both as text. -/
def credentials? (dictionary : Dictionary) (packet : Packet) : Option (String × String) :=
  if packet.code = .accessRequest then
    match packet.value? dictionary "User-Name", packet.value? dictionary "User-Password" with
    | some (.text user), some (.text password) => some (user, password)
    | _, _ => none
  else none

end Radius.Packet
