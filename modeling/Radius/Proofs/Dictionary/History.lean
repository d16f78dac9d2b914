import Mathlib.Data.List.Dedup
import Mathlib.Data.List.Induction
import Radius.Digest.Md5
import Radius.Proofs.Dictionary

/-!
# `Radius.Proofs.Dictionary.History`: what a dictionary knows of its registrations

A dictionary keeps two tables, one from types to names and codecs and one from names to types.
`registerAll` is a dictionary after any registrations, with any codecs, and `Origin` are the two
dictionaries that programs start from, each with the registrations that made it. So every
dictionary is the empty one after some history, and the history decides what it knows:

* `find?_registerAll`: the last registration of a type decides its name and its codec.
* `size_registerAll`: the size is the number of types that were registered.
* `Indexed` is the invariant that ties the two tables together. A name leads to a type that carries
  it. Every registration keeps it, also one under a name that another type carries.
* `Exact` is the stronger one, in which every name that a type carries leads to that type. It is
  kept as long as no registration takes a name that another type carries (`Undisputed`).

`registerAll_consistent` puts these together.
-/

set_option autoImplicit false

namespace Radius

/-- A call of `register`. -/
structure Registration where
  type : UInt8
  name : String
  codec : Codec

/-- The last registration of a type. -/
def Registration.last? (calls : List Registration) (type : UInt8) : Option Registration :=
  (calls.filter (·.type = type)).getLast?

namespace Dictionary

/-- The dictionary after some registrations, one after the other. -/
def registerAll (dictionary : Dictionary) (calls : List Registration) : Dictionary :=
  calls.foldl (fun dictionary call => dictionary.register call.type call.name call.codec) dictionary

/-- The registrations that make the dictionary of the standard attributes. -/
def standardCalls [Digest] : List Registration :=
  AttributeType.all.map fun type => ⟨type.number, type.name, type.codec⟩

/-- The dictionaries that programs start from, with the registrations that made them. -/
inductive Origin [Digest] : Dictionary → List Registration → Prop
  | empty : Origin .empty []
  | standard : Origin .standard standardCalls

/-- Every name leads to a type that carries it. -/
def Indexed (dictionary : Dictionary) : Prop :=
  ∀ name type, dictionary.type? name = some type → dictionary.name? type = some name

/-- Every name leads to the type that carries it, and to no other one. -/
def Exact (dictionary : Dictionary) : Prop :=
  ∀ name type, dictionary.type? name = some type ↔ dictionary.name? type = some name

/-- No registration takes a name that another type carries at that moment. -/
def Undisputed (dictionary : Dictionary) : List Registration → Prop
  | [] => True
  | call :: calls =>
    (∀ holder, dictionary.name? holder = some call.name → holder = call.type) ∧
      (dictionary.register call.type call.name call.codec).Undisputed calls

section
variable {dictionary : Dictionary}

/-! ### Histories -/

/-- The last registration is the outermost one. -/
theorem registerAll_concat (dictionary : Dictionary) (calls : List Registration)
    (call : Registration) :
    dictionary.registerAll (calls ++ [call])
      = (dictionary.registerAll calls).register call.type call.name call.codec :=
  List.foldl_append

/-- A history goes on where an earlier one ended. -/
theorem registerAll_append (dictionary : Dictionary) (before after : List Registration) :
    dictionary.registerAll (before ++ after)
      = (dictionary.registerAll before).registerAll after :=
  List.foldl_append

/-- A registration is the last one of its type, and the others keep theirs. -/
theorem last?_concat (calls : List Registration) (call : Registration) (type : UInt8) :
    Registration.last? (calls ++ [call]) type
      = if type = call.type then some call else Registration.last? calls type := by
  unfold Registration.last?
  rw [List.filter_append]
  by_cases h : type = call.type
  · have hcall : [call].filter (·.type = type) = [call] := by simp [h]
    rw [if_pos h, hcall, List.getLast?_concat]
  · have hcall : [call].filter (·.type = type) = [] := by simp [Ne.symm h]
    rw [if_neg h, hcall, List.append_nil]

/-- What is stored for a type comes from its last registration. -/
theorem find?_registerAll (calls : List Registration) (type : UInt8) :
    (empty.registerAll calls).entries.find? type
      = (Registration.last? calls type).map fun call => ⟨call.name, call.codec⟩ := by
  -- By the registrations, the last one first: it decides, or it is about another type.
  induction calls using List.reverseRecOn with
  | nil => rfl
  | append_singleton calls call ih =>
    rw [registerAll_concat, last?_concat]
    show ((empty.registerAll calls).entries.insert call.type ⟨call.name, call.codec⟩).find? type = _
    rw [Table.find?_insert]
    by_cases h : type = call.type
    · rw [if_pos h, if_pos h]
      rfl
    · rw [if_neg h, if_neg h, ih]

/-- The name of a type is that of its last registration. -/
theorem name?_registerAll (calls : List Registration) (type : UInt8) :
    (empty.registerAll calls).name? type
      = (Registration.last? calls type).map Registration.name := by
  rw [name?, find?_registerAll, Option.map_map]
  rfl

/-- The codec of a type is that of its last registration, and octets if there is none. -/
theorem codec_registerAll (calls : List Registration) (type : UInt8) :
    (empty.registerAll calls).codec type
      = ((Registration.last? calls type).map Registration.codec).getD .octets := by
  rw [Dictionary.codec, find?_registerAll]
  cases Registration.last? calls type with
  | none => rfl
  | some call => rfl

/-- Every type that was registered is stored once, and no other one is. -/
theorem keys_registerAll (calls : List Registration) :
    (empty.registerAll calls).entries.keys.Nodup ∧
      ∀ type, type ∈ (empty.registerAll calls).entries.keys ↔ type ∈ calls.map (·.type) := by
  induction calls using List.reverseRecOn with
  | nil => exact ⟨List.nodup_nil, fun _ => Iff.rfl⟩
  | append_singleton calls call ih =>
    obtain ⟨hnodup, hmem⟩ := ih
    -- The type of the last registration goes to the front, and is dropped from where it was.
    have hkeys : (empty.registerAll (calls ++ [call])).entries.keys
        = call.type :: (empty.registerAll calls).entries.keys.filter (· ≠ call.type) := by
      rw [registerAll_concat]
      exact Table.keys_insert _ _ _
    rw [hkeys]
    constructor
    · exact List.nodup_cons.2 ⟨by simp, hnodup.filter _⟩
    · intro type
      by_cases h : type = call.type
      · simp [h]
      · simp [h, ← hmem]

/-- The size of a dictionary is the number of types that were registered. -/
theorem size_registerAll (calls : List Registration) :
    (empty.registerAll calls).size = (calls.map (·.type)).dedup.length := by
  obtain ⟨hnodup, hmem⟩ := keys_registerAll calls
  have hperm : (empty.registerAll calls).entries.keys.Perm (calls.map (·.type)).dedup := by
    rw [List.perm_ext_iff_of_nodup hnodup (List.nodup_dedup _)]
    intro type
    rw [hmem, List.mem_dedup]
  rw [size, ← Table.length_keys]
  exact hperm.length_eq

/-! ### From names to types -/

/-- No name leads anywhere in the empty dictionary, and no type has a name. -/
theorem exact_empty : Exact empty := by
  intro name type
  exact ⟨nofun, nofun⟩

/-- An exact index is an index. -/
theorem Exact.indexed (h : dictionary.Exact) : dictionary.Indexed :=
  fun name type => (h name type).1

/-- In an exact index one type has a name, and no other one. -/
theorem Exact.eq_of_name? {name : String} {type other : UInt8} (h : dictionary.Exact)
    (htype : dictionary.name? type = some name) (hother : dictionary.name? other = some name) :
    other = type := by
  have hleads := (h name type).2 htype
  rw [(h name other).2 hother, Option.some.injEq] at hleads
  exact hleads

/-- A registration keeps the index, whatever its name is. -/
theorem indexed_register (h : dictionary.Indexed) (type : UInt8) (name : String) (codec : Codec) :
    (dictionary.register type name codec).Indexed := by
  intro sought found hfound
  rw [type?_register] at hfound
  rw [name?_register]
  by_cases hname : sought = name
  · rw [if_pos hname] at hfound
    cases hfound
    rw [if_pos rfl, hname]
  rw [if_neg hname] at hfound
  by_cases hgiven : dictionary.name? type = some sought
  · rw [if_pos hgiven] at hfound
    cases hfound
  rw [if_neg hgiven] at hfound
  have hcarried := h sought found hfound
  -- The name that the type gave up led nowhere else, so `found` is another type.
  have hother : found ≠ type := by
    rintro rfl
    exact hgiven hcarried
  rw [if_neg hother]
  exact hcarried

/-- A registration keeps the index exact if no other type carries its name. -/
theorem exact_register (h : dictionary.Exact) {type : UInt8} {name : String} (codec : Codec)
    (hfree : ∀ holder, dictionary.name? holder = some name → holder = type) :
    (dictionary.register type name codec).Exact := by
  intro sought found
  refine ⟨indexed_register h.indexed type name codec sought found, ?_⟩
  intro hcarried
  rw [name?_register] at hcarried
  rw [type?_register]
  by_cases hfound : found = type
  · rw [if_pos hfound] at hcarried
    cases hcarried
    rw [if_pos rfl, hfound]
  rw [if_neg hfound] at hcarried
  -- The name is neither the new one, which no other type has, nor the one that the type gave up.
  have hname : sought ≠ name := by
    rintro rfl
    exact hfound (hfree found hcarried)
  have hgiven : dictionary.name? type ≠ some sought := by
    intro hgiven
    have hlead := (h sought type).2 hgiven
    rw [(h sought found).2 hcarried] at hlead
    exact hfound (Option.some.inj hlead)
  rw [if_neg hname, if_neg hgiven]
  exact (h sought found).2 hcarried

/-- In an exact dictionary the look-up by name shows whether another type carries a name. -/
theorem Exact.undisputed_cons (h : dictionary.Exact) {call : Registration}
    {calls : List Registration}
    (hlead : dictionary.type? call.name = none ∨ dictionary.type? call.name = some call.type)
    (hrest : (dictionary.register call.type call.name call.codec).Exact →
      (dictionary.register call.type call.name call.codec).Undisputed calls) :
    dictionary.Undisputed (call :: calls) := by
  have hfree : ∀ holder, dictionary.name? holder = some call.name → holder = call.type := by
    intro holder hholder
    have hfound := (h call.name holder).2 hholder
    rcases hlead with hlead | hlead
    · rw [hlead] at hfound
      cases hfound
    · rw [hlead] at hfound
      exact (Option.some.inj hfound).symm
  exact ⟨hfree, hrest (exact_register h call.codec hfree)⟩

/-- Any registrations keep the index. -/
theorem indexed_registerAll (h : dictionary.Indexed) (calls : List Registration) :
    (dictionary.registerAll calls).Indexed := by
  induction calls generalizing dictionary with
  | nil => exact h
  | cons call calls ih => exact ih (indexed_register h call.type call.name call.codec)

/-- However a dictionary came about by registrations, every name leads to a type that carries it. -/
theorem BuiltFrom.indexed {allowed : Codec → Prop} (h : dictionary.BuiltFrom allowed) :
    dictionary.Indexed := by
  induction h with
  | empty => exact exact_empty.indexed
  | register type name _ _ ih => exact indexed_register ih type name _

/-- Registrations that take no name from another type keep the index exact. -/
theorem exact_registerAll (h : dictionary.Exact) {calls : List Registration}
    (hcalls : dictionary.Undisputed calls) : (dictionary.registerAll calls).Exact := by
  induction calls generalizing dictionary with
  | nil => exact h
  | cons call calls ih =>
    obtain ⟨hfree, hrest⟩ := hcalls
    exact ih (exact_register h call.codec hfree) hrest

/-- Names that are new and distinct are taken from nobody. -/
theorem undisputed_of_nodup {calls : List Registration} (hnodup : (calls.map (·.name)).Nodup)
    (hnew : ∀ call ∈ calls, ∀ holder, dictionary.name? holder ≠ some call.name) :
    dictionary.Undisputed calls := by
  induction calls generalizing dictionary with
  | nil => trivial
  | cons call calls ih =>
    obtain ⟨hcall, hrest⟩ := List.nodup_cons.1 hnodup
    refine ⟨fun holder h => absurd h (hnew call List.mem_cons_self holder), ih hrest ?_⟩
    intro later hlater holder hholder
    rw [name?_register] at hholder
    split at hholder
    next => exact hcall (List.mem_map.2 ⟨later, hlater, (Option.some.inj hholder).symm⟩)
    next => exact hnew later (List.mem_cons_of_mem call hlater) holder hholder

/-- An attribute is made for the type that its name leads to. -/
theorem type?_of_resolve {name : String} {value : Value} {attr : Attribute}
    (h : dictionary.resolve name value = .ok attr) : dictionary.type? name = some attr.type := by
  rcases dictionary.resolve_cases name value with ⟨-, hno⟩ | ⟨type, htype, ⟨_, hok⟩ | ⟨_, hno⟩⟩
  · rw [hno] at h
    cases h
  · rw [hok] at h
    cases h
    exact htype
  · rw [hno] at h
    cases h

end

/-! ### The two dictionaries to start from -/

section
variable [Digest] {start : Dictionary} {made : List Registration}

/-- The dictionary of the standard attributes has a history of its own. -/
theorem standard_eq_registerAll : standard = empty.registerAll standardCalls := by
  rw [registerAll, standardCalls, List.foldl_map]
  rfl

/-- A dictionary to start from is the empty one after the registrations that made it. -/
theorem Origin.eq_registerAll (h : Origin start made) :
    start = Dictionary.empty.registerAll made := by
  cases h with
  | empty => rfl
  | standard => exact standard_eq_registerAll

omit [Digest] in
/-- The standard attributes have names of their own. -/
theorem nodup_names : (AttributeType.all.map AttributeType.name).Nodup := by
  decide +kernel

/-- Both dictionaries to start from are exact. -/
theorem Origin.exact (h : Origin start made) : start.Exact := by
  cases h with
  | empty => exact exact_empty
  | standard =>
    rw [standard_eq_registerAll]
    refine exact_registerAll exact_empty (undisputed_of_nodup ?_ (fun _ _ _ => nofun))
    rw [standardCalls, List.map_map]
    exact nodup_names

/-- What a dictionary knows after any registrations, from the empty dictionary or from that of the
standard attributes.

* Every type has the name and the codec of its last registration. One that was never registered has
  no name and the codec of octets. The size is the number of registered types.
* A name leads only to a type that carries it, so an attribute that is made for a name has it.
* As long as no registration takes a name that another type carries, a name leads to every type
  that carries it. -/
theorem registerAll_consistent (h : Origin start made) (calls : List Registration) :
    (∀ type,
      (start.registerAll calls).name? type
        = (Registration.last? (made ++ calls) type).map Registration.name ∧
      (start.registerAll calls).codec type
        = ((Registration.last? (made ++ calls) type).map Registration.codec).getD .octets) ∧
    (start.registerAll calls).size = ((made ++ calls).map (·.type)).dedup.length ∧
    (∀ name type, (start.registerAll calls).type? name = some type →
      (start.registerAll calls).name? type = some name) ∧
    (∀ name value attr, (start.registerAll calls).resolve name value = .ok attr →
      (start.registerAll calls).name? attr.type = some name) ∧
    (start.Undisputed calls → ∀ name type,
      (start.registerAll calls).type? name = some type ↔
        (start.registerAll calls).name? type = some name) := by
  have hindexed := indexed_registerAll h.exact.indexed calls
  have hhistory : start.registerAll calls = empty.registerAll (made ++ calls) := by
    rw [registerAll_append, ← h.eq_registerAll]
  refine ⟨?_, ?_, hindexed, ?_, exact_registerAll h.exact⟩
  · intro type
    rw [hhistory]
    exact ⟨name?_registerAll _ type, codec_registerAll _ type⟩
  · rw [hhistory]
    exact size_registerAll _
  · intro name value attr hattr
    exact hindexed name attr.type (type?_of_resolve hattr)

end

/-- The first type of the standard attributes gets another name, a new type gets the name that is
free then, and the first one is registered again under the name that it has. -/
def renamings : List Registration :=
  [⟨1, "Login-Name", .octets⟩, ⟨200, "User-Name", .integer⟩, ⟨1, "Login-Name", .text⟩]

/-- None of them takes a name from another type, so each name leads to the type that carries it. -/
theorem registerAll_consistent_renamings :
    standard.Undisputed renamings ∧
      (standard.registerAll renamings).name? 1 = some "Login-Name" ∧
      (standard.registerAll renamings).codec 1 = .text ∧
      (standard.registerAll renamings).size = 61 ∧
      (standard.registerAll renamings).type? "User-Name" = some 200 := by
  have hundisputed : standard.Undisputed renamings :=
    Origin.standard.exact.undisputed_cons (by decide +kernel) fun h =>
      h.undisputed_cons (by decide +kernel) fun h =>
        h.undisputed_cons (by decide +kernel) fun _ => trivial
  obtain ⟨hlast, hsize, -, -, hexactly⟩ := registerAll_consistent Origin.standard renamings
  refine ⟨hundisputed, (hlast 1).1, (hlast 1).2, ?_, ?_⟩
  · rw [hsize]
    decide +kernel
  · rw [hexactly hundisputed, (hlast 200).1]
    rfl

end Dictionary

end Radius
