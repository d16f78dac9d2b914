import Radius.Proofs.Dictionary.History
import Radius.Proofs.Packet.Access

/-!
# `Radius.Proofs.Packet.Normalization`: values that are set and values that are added

A value goes to a codec on two ways. `add` asks the codec of the type that the name leads to
(`admission`), and `set` asks the codec of the first attribute of the name (`replacement`). Where no
two types share a name these are the same codec. The two ways differ in one place only: of a codec
that does not normalize, `add` takes values of its own kind, and `set` takes every value.

* `replacement_eq_admission_iff`: when a codec fares alike on the two ways.
* `setsAsAdds_iff`: when `set` fares as `add` would, for a packet and a name in it. For the codecs
  of the library, which all normalize, this is always.
* `not_setsAsAdds`: a codec that does not normalize, a value of another kind, and a packet that
  holds it after `set`.
-/

set_option autoImplicit false

namespace Radius.Packet

/-- What a codec stores for a value that is added under a name. -/
def admission (codec : Codec) (name : String) (value : Value) : Except DictionaryError Value :=
  match codec.normalize? with
  | some normalize => (normalize value).mapError (.invalidValue name)
  | none =>
    if value.kind = codec.kind then .ok value
    else .error (.invalidValue name (Codec.unexpected codec.kind value))

/-- A value that is set fares as it would if it were added. It is refused for the same cause, or
the first attribute of the name holds what the added attribute would hold. -/
structure SetsAsAdds (dictionary : Dictionary) (packet : Packet) (name : String) (value : Value) :
    Prop where
  refused : ∀ cause, packet.set dictionary name value = .error cause ↔
    packet.add dictionary name value = .error cause
  stored : ∀ stored,
    (∃ next, packet.set dictionary name value = .ok next ∧
      next.value? dictionary name = some stored) ↔
    ∃ next type, packet.add dictionary name value = .ok next ∧
      next.attributes = packet.attributes ++ [⟨type, stored⟩]

section
variable {dictionary : Dictionary} {packet : Packet} {name : String} {value : Value}
  {before after : List Attribute} {attr : Attribute} {type : UInt8}

/-! ### The codec on both ways -/

/-- What a name and a value make is what the codec of its type admits. -/
theorem resolve_of_type? (h : dictionary.type? name = some type) :
    dictionary.resolve name value
      = (admission (dictionary.codec type) name value).map fun stored => ⟨type, stored⟩ := by
  unfold Dictionary.resolve admission
  rw [h]
  dsimp only
  cases (dictionary.codec type).normalize? with
  | some normalize =>
    dsimp only
    cases normalize value with
    | ok stored => rfl
    | error cause => rfl
  | none =>
    dsimp only
    split
    next => rfl
    next => rfl

/-- A codec fares alike on both ways exactly if it normalizes, or the value has its kind. -/
theorem replacement_eq_admission_iff {codec : Codec} :
    replacement codec name value = (admission codec name value).mapError .dictionary ↔
      codec.normalize?.isSome ∨ value.kind = codec.kind := by
  unfold replacement admission
  cases codec.normalize? with
  | some normalize =>
    dsimp only
    cases normalize value with
    | ok stored => simp [Except.mapError]
    | error cause => simp [Except.mapError]
  | none =>
    dsimp only
    split
    next hkind => simp [Except.mapError, hkind]
    next hkind => simp [Except.mapError, hkind]

/-! ### Setting and adding -/

/-- What is left of a packet that a value was set in: the outcome of the one way. -/
theorem set_outcome (h : FirstNamed dictionary name packet.attributes before attr after)
    (value : Value) :
    (∀ cause, packet.set dictionary name value = .error cause ↔
      replacement (dictionary.codec attr.type) name value = .error cause) ∧
    ∀ stored, (∃ next, packet.set dictionary name value = .ok next ∧
        next.value? dictionary name = some stored) ↔
      replacement (dictionary.codec attr.type) name value = .ok stored := by
  -- Whatever is stored, it is in the first attribute of the name afterwards.
  have hvalue : ∀ stored, ({ packet with
      attributes := before ++ { attr with value := stored } :: after }).value? dictionary name
        = some stored := by
    intro stored
    have hfirst : FirstNamed dictionary name (before ++ { attr with value := stored } :: after)
        before { attr with value := stored } after :=
      ⟨rfl, h.named, h.unnamed⟩
    rw [value?, find?_of_firstNamed hfirst]
    rfl
  rw [set_of_firstNamed h]
  cases replacement (dictionary.codec attr.type) name value with
  | error cause => simp [Except.map]
  | ok replaced => simp [Except.map, hvalue]

/-- What is left of a packet that a value was added to: the outcome of the other way. -/
theorem add_outcome (h : dictionary.type? name = some type) (packet : Packet) (value : Value) :
    (∀ cause, packet.add dictionary name value = .error cause ↔
      (admission (dictionary.codec type) name value).mapError .dictionary = .error cause) ∧
    ∀ stored, (∃ next type, packet.add dictionary name value = .ok next ∧
        next.attributes = packet.attributes ++ [⟨type, stored⟩]) ↔
      (admission (dictionary.codec type) name value).mapError PacketError.dictionary
        = .ok stored := by
  unfold add
  rw [resolve_of_type? h]
  cases admission (dictionary.codec type) name value with
  | error cause => simp [Except.map, Except.mapError]
  | ok admitted => simp [Except.map, Except.mapError, append]

/-- `set` fares as `add` would exactly if the codec fares alike on both ways. -/
theorem setsAsAdds_iff_replacement
    (hfirst : FirstNamed dictionary name packet.attributes before attr after)
    (htype : dictionary.type? name = some attr.type) (value : Value) :
    SetsAsAdds dictionary packet name value ↔
      replacement (dictionary.codec attr.type) name value
        = (admission (dictionary.codec attr.type) name value).mapError .dictionary := by
  obtain ⟨hsetRefused, hsetStored⟩ := set_outcome hfirst value
  obtain ⟨haddRefused, haddStored⟩ := add_outcome htype packet value
  constructor
  · rintro ⟨hrefused, hstored⟩
    simp only [hsetRefused, haddRefused] at hrefused
    simp only [hsetStored, haddStored] at hstored
    cases hreplaced : replacement (dictionary.codec attr.type) name value with
    | error cause => exact ((hrefused cause).1 hreplaced).symm
    | ok stored => exact ((hstored stored).1 hreplaced).symm
  · intro hsame
    refine ⟨fun cause => ?_, fun stored => ?_⟩
    · rw [hsetRefused, haddRefused, hsame]
    · rw [hsetStored, haddStored, hsame]

/-- If some attribute has a name, there is a first one, of the same type. -/
theorem exists_firstNamed (h : dictionary.Exact) (hattr : attr ∈ packet.attributes)
    (hname : dictionary.name? attr.type = some name) :
    ∃ before first after, FirstNamed dictionary name packet.attributes before first after ∧
      first.type = attr.type ∧ dictionary.type? name = some first.type := by
  rcases firstNamed_or_unnamed dictionary name packet.attributes with
    ⟨before, first, after, hfirst⟩ | hunnamed
  · exact ⟨before, first, after, hfirst, h.eq_of_name? hname hfirst.named,
      (h name first.type).2 hfirst.named⟩
  · exact absurd hname (hunnamed attr hattr)

end

section
variable [Digest] {start : Dictionary} {made calls : List Registration} {packet : Packet}
  {attr : Attribute} {name : String}

open Dictionary

/-- When `set` fares as `add` would, for a name that an attribute of the packet has. The dictionary
comes about by any registrations that take no name from another type, with any codecs.

It does exactly if the codec of the attribute normalizes, or the value has the kind of the codec. In
all other cases `add` refuses the value for its kind, and `set` stores it as it is. -/
theorem setsAsAdds_iff (horigin : Origin start made) (hcalls : start.Undisputed calls)
    (hattr : attr ∈ packet.attributes)
    (hname : (start.registerAll calls).name? attr.type = some name) (value : Value) :
    (SetsAsAdds (start.registerAll calls) packet name value ↔
      ((start.registerAll calls).codec attr.type).normalize?.isSome ∨
        value.kind = ((start.registerAll calls).codec attr.type).kind) ∧
    (¬ SetsAsAdds (start.registerAll calls) packet name value →
      packet.add (start.registerAll calls) name value
        = .error (.dictionary (.invalidValue name
            (Codec.unexpected ((start.registerAll calls).codec attr.type).kind value))) ∧
      ∃ next, packet.set (start.registerAll calls) name value = .ok next ∧
        next.value? (start.registerAll calls) name = some value) := by
  have hexact := exact_registerAll horigin.exact hcalls
  obtain ⟨before, first, after, hfirst, hsame, htype⟩ := exists_firstNamed hexact hattr hname
  have halike := setsAsAdds_iff_replacement hfirst htype value
  rw [replacement_eq_admission_iff, hsame] at halike
  refine ⟨halike, fun hdiffer => ?_⟩
  -- The codec does not normalize, and the value has another kind.
  rw [halike, not_or, Option.not_isSome_iff_eq_none] at hdiffer
  obtain ⟨hnone, hkind⟩ := hdiffer
  have hadd := (add_outcome htype packet value).1
  have hset := (set_outcome hfirst value).2
  rw [hsame] at hadd hset
  refine ⟨(hadd _).2 ?_, (hset _).2 ?_⟩
  · rw [admission, hnone]
    dsimp only
    rw [if_neg hkind]
    rfl
  · rw [replacement, hnone]

end

/-- One type, with a codec that does not normalize. -/
def plainCalls : List Registration :=
  [⟨9, "Comment", Codec.text.bare⟩]

/-- A request with an attribute of that type. -/
def commented : Packet where
  code := .accessRequest
  identifier := 1
  authenticator := .zero
  secret := []
  attributes := [⟨9, .text "seed"⟩]

/-- No name of the one registration is taken from another type. -/
theorem undisputed_plainCalls : Dictionary.empty.Undisputed plainCalls :=
  Dictionary.undisputed_of_nodup (by decide) nofun

/-- Text is set as it is added. A number is refused when it is added, and stored when it is set. -/
theorem setsAsAdds_iff_commented :
    SetsAsAdds (Dictionary.empty.registerAll plainCalls) commented "Comment" (.text "x") ∧
      ¬ SetsAsAdds (Dictionary.empty.registerAll plainCalls) commented "Comment" (.integer 7) ∧
      commented.add (Dictionary.empty.registerAll plainCalls) "Comment" (.integer 7)
        = .error (.dictionary (.invalidValue "Comment" (.unexpectedValue .text .integer))) := by
  have hattr : ⟨9, .text "seed"⟩ ∈ commented.attributes := List.mem_singleton.2 rfl
  have hname : (Dictionary.empty.registerAll plainCalls).name? 9 = some "Comment" := by decide
  have hiff := setsAsAdds_iff .empty undisputed_plainCalls hattr hname
  have hdiffer :
      ¬ SetsAsAdds (Dictionary.empty.registerAll plainCalls) commented "Comment" (.integer 7) := by
    rw [(hiff (.integer 7)).1]
    decide
  exact ⟨(hiff (.text "x")).1.2 (.inr rfl), hdiffer, ((hiff (.integer 7)).2 hdiffer).1⟩

/-- A value that is set need not fare as it would if it were added. -/
theorem not_setsAsAdds :
    ¬ ∀ (start : Dictionary) (made calls : List Registration) (packet : Packet)
      (attr : Attribute) (name : String) (value : Value),
      Dictionary.Origin start made → start.Undisputed calls → attr ∈ packet.attributes →
      (start.registerAll calls).name? attr.type = some name →
      SetsAsAdds (start.registerAll calls) packet name value := by
  intro h
  have halike := h .empty [] plainCalls commented ⟨9, .text "seed"⟩ "Comment" (.integer 7) .empty
    undisputed_plainCalls (List.mem_singleton.2 rfl) (by decide)
  have hadd : commented.add (Dictionary.empty.registerAll plainCalls) "Comment" (.integer 7)
      = .error (.dictionary (.invalidValue "Comment" (.unexpectedValue .text .integer))) := by
    decide +kernel
  have hset : commented.set (Dictionary.empty.registerAll plainCalls) "Comment" (.integer 7)
      = .ok { commented with attributes := [⟨9, .integer 7⟩] } := by
    decide +kernel
  rw [← halike.refused, hset] at hadd
  cases hadd

end Radius.Packet
