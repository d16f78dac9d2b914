import Radius.Dictionary.Standard

/-!
# `Radius.Proofs.Dictionary`: dictionaries that registrations lead to

A dictionary comes about by registering types one after the other, in any order, with
repetitions and with names that other types have already. `Dictionary.BuiltFrom` says so, with
the codecs taken from a class. `codec_register` is what one registration does to the codecs,
`BuiltFrom.codec` what a whole history of them leads to: every type has a codec of the class,
the types without a registration included if octets are in it. The dictionary of the standard
attributes is built from the five codecs of the library (`builtFrom_standard`).

What one registration does to the names is `name?_register` in the direction from types to names,
and `type?_register` in the direction from names to types. `resolve_cases` is all that a look-up by
name can come to.
-/

set_option autoImplicit false

namespace Radius

/-- One of the five codecs of the library. -/
inductive Codec.Stock [Digest] : Codec → Prop
  | text : Stock .text
  | octets : Stock .octets
  | integer : Stock .integer
  | address : Stock .address
  | userPassword : Stock .userPassword

namespace Dictionary

/-- The dictionaries that registrations lead to, all of them with codecs of one class. -/
inductive BuiltFrom (allowed : Codec → Prop) : Dictionary → Prop
  | empty : BuiltFrom allowed .empty
  | register {dictionary : Dictionary} (type : UInt8) (name : String) {codec : Codec}
      (hbefore : BuiltFrom allowed dictionary) (hfits : allowed codec) :
      BuiltFrom allowed (dictionary.register type name codec)

/-- A registration gives its type a codec and leaves every other type the one that it had. -/
theorem codec_register (dictionary : Dictionary) (type : UInt8) (name : String) (codec : Codec)
    (sought : UInt8) :
    (dictionary.register type name codec).codec sought
      = if sought = type then codec else dictionary.codec sought := by
  unfold Dictionary.codec
  simp only [register, Table.find?_insert]
  by_cases h : sought = type
  · rw [if_pos h, if_pos h]
  · rw [if_neg h, if_neg h]

/-- A registration names its type and leaves every other type the name that it had. -/
theorem name?_register (dictionary : Dictionary) (type : UInt8) (name : String) (codec : Codec)
    (sought : UInt8) :
    (dictionary.register type name codec).name? sought
      = if sought = type then some name else dictionary.name? sought := by
  unfold Dictionary.name?
  simp only [register, Table.find?_insert]
  by_cases h : sought = type
  · rw [if_pos h, if_pos h]
    rfl
  · rw [if_neg h, if_neg h]

/-- A registration makes its name lead to its type. The name that the type had before leads nowhere
from then on, and every other name leads to where it led. -/
theorem type?_register (dictionary : Dictionary) (type : UInt8) (name : String) (codec : Codec)
    (sought : String) :
    (dictionary.register type name codec).type? sought
      = if sought = name then some type
        else if dictionary.name? type = some sought then none else dictionary.type? sought := by
  unfold Dictionary.type?
  simp only [register, Table.find?_insert]
  by_cases h : sought = name
  · rw [if_pos h, if_pos h]
  · rw [if_neg h, if_neg h, released]
    cases dictionary.name? type with
    | none => rfl
    | some previous =>
      simp only [Table.find?_erase, Option.some.injEq, eq_comm]

/-- All that a look-up by name can come to. The name leads nowhere, or it leads to a type, and the
codec of the type takes the value or refuses it. -/
theorem resolve_cases (dictionary : Dictionary) (name : String) (value : Value) :
    (dictionary.type? name = none ∧
      dictionary.resolve name value = .error (.invalidName name)) ∨
    ∃ type, dictionary.type? name = some type ∧
      ((∃ stored, dictionary.resolve name value = .ok ⟨type, stored⟩) ∨
        ∃ cause, dictionary.resolve name value = .error (.invalidValue name cause)) := by
  unfold resolve
  cases htype : dictionary.type? name with
  | none => exact .inl ⟨rfl, rfl⟩
  | some type =>
    refine .inr ⟨type, rfl, ?_⟩
    simp only
    split
    next normalize =>
      split
      next stored _ => exact .inl ⟨stored, rfl⟩
      next cause _ => exact .inr ⟨cause, rfl⟩
    next =>
      split
      next => exact .inl ⟨value, rfl⟩
      next => exact .inr ⟨_, rfl⟩

/-- Every type has a codec of the class, after any registrations. -/
theorem BuiltFrom.codec {allowed : Codec → Prop} {dictionary : Dictionary}
    (h : dictionary.BuiltFrom allowed) (hoctets : allowed .octets) (type : UInt8) :
    allowed (dictionary.codec type) := by
  -- By the registrations, the last one outermost.
  induction h with
  | empty => exact hoctets
  | register registered name hbefore hfits ih =>
    rw [codec_register]
    by_cases h : type = registered
    · rw [if_pos h]
      exact hfits
    · rw [if_neg h]
      exact ih

/-- Registrations with codecs of one class are registrations with codecs of a wider one. -/
theorem BuiltFrom.mono {allowed wider : Codec → Prop} {dictionary : Dictionary}
    (h : dictionary.BuiltFrom allowed) (hwider : ∀ codec, allowed codec → wider codec) :
    dictionary.BuiltFrom wider := by
  induction h with
  | empty => exact .empty
  | register type name hbefore hfits ih => exact .register type name ih (hwider _ hfits)

variable [Digest]

/-- Every type has one of the five codecs, if only these were registered. -/
theorem BuiltFrom.stock {dictionary : Dictionary} (h : dictionary.BuiltFrom Codec.Stock)
    (type : UInt8) : (dictionary.codec type).Stock :=
  h.codec .octets type

/-- The standard attributes have codecs of the library. -/
theorem stock_codec (type : AttributeType) : type.codec.Stock := by
  unfold AttributeType.codec
  split
  · exact .userPassword
  · split
    · exact .text
    · exact .octets
    · exact .address
    · exact .integer

/-- The dictionary of the standard attributes comes about by registrations. -/
theorem builtFrom_standard : standard.BuiltFrom Codec.Stock := by
  -- The fold that makes the dictionary, from any dictionary that registrations lead to.
  have hfold : ∀ (types : List AttributeType) (dictionary : Dictionary),
      dictionary.BuiltFrom Codec.Stock →
      (types.foldl (fun dictionary type =>
        dictionary.register type.number type.name type.codec) dictionary).BuiltFrom
          Codec.Stock := by
    intro types
    induction types with
    | nil => exact fun _ h => h
    | cons type rest ih =>
      intro dictionary h
      exact ih _ (.register type.number type.name h (stock_codec type))
  exact hfold AttributeType.all .empty .empty

end Dictionary

end Radius
