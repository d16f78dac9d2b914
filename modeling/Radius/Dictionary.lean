import Radius.Codec
import Radius.Table

/-!
# `Radius.Dictionary`: names and codecs of attributes

A dictionary gives type numbers a name and a codec. Registering a type replaces what was
registered for it, and gives the name to that type alone: of several types registered under
one name, a look-up by name finds the last, while each type keeps its name. A type that was
never registered has no name and reads as octets.
-/

set_option autoImplicit false

namespace Radius

/-- What is registered for a type. -/
structure Dictionary.Entry where
  name : String
  codec : Codec

/-- The registered types, and the type that each name leads to. -/
structure Dictionary where
  entries : Table UInt8 Dictionary.Entry
  types : Table String UInt8

namespace Dictionary

/-- The dictionary without types. -/
def empty : Dictionary :=
  ⟨.empty, .empty⟩

/-- The name of a type. -/
def name? (dictionary : Dictionary) (type : UInt8) : Option String :=
  (dictionary.entries.find? type).map Entry.name

/-- The codec of a type. -/
def codec (dictionary : Dictionary) (type : UInt8) : Codec :=
  match dictionary.entries.find? type with
  | some entry => entry.codec
  | none => .octets

/-- The type that a name leads to. -/
def type? (dictionary : Dictionary) (name : String) : Option UInt8 :=
  dictionary.types.find? name

/-- The number of registered types. -/
def size (dictionary : Dictionary) : Nat :=
  dictionary.entries.size

/-- The names after a type gave up the one that it had. -/
def released (dictionary : Dictionary) (type : UInt8) : Table String UInt8 :=
  match dictionary.name? type with
  | some previous => dictionary.types.erase previous
  | none => dictionary.types

/-- The dictionary with a name and a codec for a type. -/
def register (dictionary : Dictionary) (type : UInt8) (name : String) (codec : Codec) :
    Dictionary where
  entries := dictionary.entries.insert type ⟨name, codec⟩
  types := (dictionary.released type).insert name type

/-- The attribute of a name and a value, the value normalized by the codec. A codec that does
not normalize takes values of its own kind only. -/
def resolve (dictionary : Dictionary) (name : String) (value : Value) :
    Except DictionaryError Attribute :=
  match dictionary.type? name with
  | none => .error (.invalidName name)
  | some type =>
    let codec := dictionary.codec type
    match codec.normalize? with
    | some normalize =>
      match normalize value with
      | .ok value => .ok ⟨type, value⟩
      | .error cause => .error (.invalidValue name cause)
    | none =>
      if value.kind = codec.kind then .ok ⟨type, value⟩
      else .error (.invalidValue name (Codec.unexpected codec.kind value))

/-- The text of an attribute: the codec's own rendering, the text that the value has by
itself, text as it is, octets as the text they nearly spell. A number without a codec that
renders it has no text. -/
def render (dictionary : Dictionary) (attr : Attribute) : String :=
  match (dictionary.codec attr.type).render? with
  | some render => render attr.value
  | none =>
    match attr.value.rendered? with
    | some rendered => rendered
    | none =>
      match attr.value with
      | .text text => text
      | .bytes bytes => String.ofList (Utf8.decodeLossy bytes)
      | _ => ""

end Dictionary

end Radius
