import Radius.Proofs.Dictionary.History
import Radius.Proofs.Packet.Run

/-!
# `Radius.Proofs.Packet.ReadBack`: reading by name what was written by name

A write goes from a name to a type, and a read goes from the types of the attributes to their
names. The two directions are two tables of the dictionary, and they need not be inverse: several
types can carry one name, and a name can be dropped. What ties them together is the index
(`Dictionary.Indexed`), which every registration keeps.

`under` picks the attributes whose types have one name, or those whose types have none. Every read
by name is a read of one such list (`values_eq_map_under`, `find?_eq_head?_under`), so it is enough
to say what a write does to all of them at once:

* `under_of_add`: an added attribute comes last among those of its name.
* `under_of_set`: an attribute with the value comes first among those of its name, in place of the
  one that was first. `Lands` says which attribute this is.
* `under_run`: after any writes the attributes under other names, and those without one, are as
  they were.

`reads_follow_writes` is what this comes to for the reads.
-/

set_option autoImplicit false

namespace Radius.Packet

/-- The attributes whose types have this name, in order. With `none` those whose types have no
name. -/
def under (dictionary : Dictionary) (key : Option String) (attributes : List Attribute) :
    List Attribute :=
  attributes.filter fun attr => dictionary.name? attr.type == key

/-- The packet without the attributes whose types have no name. -/
def named (dictionary : Dictionary) (packet : Packet) : Packet :=
  { packet with
    attributes := packet.attributes.filter fun attr => (dictionary.name? attr.type).isSome }

/-- Where a value lands that is set under a name: in the first attribute of the name, as its codec
makes it, or in a new attribute if there is none. -/
inductive Lands (dictionary : Dictionary) (packet : Packet) (name : String) (value : Value) :
    Attribute → Prop
  | replacing {first : Attribute} {stored : Value}
      (hfound : packet.find? dictionary name = some first)
      (hstored : replacement (dictionary.codec first.type) name value = .ok stored) :
      Lands dictionary packet name value { first with value := stored }
  | adding {attr : Attribute} (hmissing : packet.find? dictionary name = none)
      (hmade : dictionary.resolve name value = .ok attr) : Lands dictionary packet name value attr

/-- The name that a call writes under. -/
def Edit.name? : Edit → Option String
  | .add name _ => some name
  | .set name _ => some name
  | _ => none

section
variable {dictionary : Dictionary} {packet next : Packet} {name : String} {key : Option String}
  {value : Value} {attributes before after : List Attribute} {attr : Attribute}

/-! ### Reads -/

/-- The values of a name are those of the attributes under it. -/
theorem values_eq_map_under (dictionary : Dictionary) (packet : Packet) (name : String) :
    packet.values dictionary name
      = (under dictionary (some name) packet.attributes).map Attribute.value := rfl

/-- Two packets with the same attributes under a name have the same values of it. -/
theorem values_congr
    (h : under dictionary (some name) next.attributes
      = under dictionary (some name) packet.attributes) :
    next.values dictionary name = packet.values dictionary name :=
  congrArg (List.map Attribute.value) h

/-- The attribute that is found under a name is the first one under it. -/
theorem find?_eq_head?_under (dictionary : Dictionary) (packet : Packet) (name : String) :
    packet.find? dictionary name
      = (under dictionary (some name) packet.attributes).head? :=
  (List.head?_filter).symm

/-- The attributes without a name are under no name. -/
theorem under_named (dictionary : Dictionary) (packet : Packet) (name : String) :
    under dictionary (some name) (packet.named dictionary).attributes
      = under dictionary (some name) packet.attributes := by
  show (packet.attributes.filter _).filter _ = packet.attributes.filter _
  rw [List.filter_filter]
  refine List.filter_congr fun attr _ => ?_
  cases dictionary.name? attr.type with
  | none => rfl
  | some carried => simp

/-! ### One write -/

/-- What is under a name is found front first. -/
theorem under_append (dictionary : Dictionary) (key : Option String)
    (front rest : List Attribute) :
    under dictionary key (front ++ rest)
      = under dictionary key front ++ under dictionary key rest :=
  List.filter_append front rest

/-- An attribute in front of others is under its own name only. -/
theorem under_cons (hname : dictionary.name? attr.type = some name) :
    under dictionary key (attr :: attributes)
      = if key = some name then attr :: under dictionary key attributes
        else under dictionary key attributes := by
  show List.filter _ (attr :: attributes) = _
  rw [List.filter_cons, hname]
  simp only [beq_iff_eq, eq_comm (a := some name)]
  rfl

/-- No attribute is under a name that none has. -/
theorem under_eq_nil_of_unnamed (h : Unnamed dictionary name attributes) :
    under dictionary (some name) attributes = [] := by
  refine List.filter_eq_nil_iff.2 fun attr hattr hname => ?_
  exact h attr hattr (beq_iff_eq.1 hname)

/-- A value in place of that of the first attribute of a name changes the first attribute under
this name. -/
theorem under_of_firstNamed (h : FirstNamed dictionary name attributes before attr after)
    (stored : Value) (key : Option String) :
    under dictionary key (before ++ { attr with value := stored } :: after)
      = if key = some name then
          { attr with value := stored } :: (under dictionary key attributes).tail
        else under dictionary key attributes := by
  have hreplaced : dictionary.name? { attr with value := stored }.type = some name := h.named
  rw [h.split, under_append, under_append, under_cons hreplaced, under_cons h.named]
  by_cases hkey : key = some name
  · -- Nothing before the attribute has its name, so it is the head of both lists.
    subst hkey
    rw [under_eq_nil_of_unnamed h.unnamed]
    simp
  · simp only [if_neg hkey]

/-- An attribute that is added comes last under its name. -/
theorem under_of_add (hindexed : dictionary.Indexed)
    (h : packet.add dictionary name value = .ok next) :
    ∃ attr, dictionary.resolve name value = .ok attr ∧
      ∀ key, under dictionary key next.attributes
        = if key = some name then under dictionary key packet.attributes ++ [attr]
          else under dictionary key packet.attributes := by
  obtain ⟨attr, hattr, rfl⟩ := add_eq_ok_iff.1 h
  refine ⟨attr, hattr, fun key => ?_⟩
  -- The type that the name led to carries it.
  have hname : dictionary.name? attr.type = some name :=
    hindexed name attr.type (Dictionary.type?_of_resolve hattr)
  show under dictionary key (packet.attributes ++ [attr]) = _
  rw [under_append, under_cons hname]
  by_cases hkey : key = some name
  · rw [if_pos hkey, if_pos hkey]
    rfl
  · rw [if_neg hkey, if_neg hkey]
    exact List.append_nil _

/-- A value that is set comes first under its name, in place of the one that was first. -/
theorem under_of_set (hindexed : dictionary.Indexed)
    (h : packet.set dictionary name value = .ok next) :
    ∃ attr, Lands dictionary packet name value attr ∧
      ∀ key, under dictionary key next.attributes
        = if key = some name then attr :: (under dictionary key packet.attributes).tail
          else under dictionary key packet.attributes := by
  rcases set_eq_ok_iff.1 h with
    ⟨before, attr, after, stored, hfirst, hstored, rfl⟩ | ⟨hunnamed, hadded⟩
  · exact ⟨_, .replacing (find?_of_firstNamed hfirst) hstored, under_of_firstNamed hfirst stored⟩
  · -- Nothing is under the name, so what is added last comes first.
    have hnone := under_eq_nil_of_unnamed hunnamed
    have hmissing : packet.find? dictionary name = none := by
      rw [find?_eq_head?_under, hnone]
      rfl
    obtain ⟨attr, hattr, hunder⟩ := under_of_add hindexed hadded
    refine ⟨attr, .adding hmissing hattr, fun key => ?_⟩
    rw [hunder key]
    by_cases hkey : key = some name
    · rw [if_pos hkey, if_pos hkey, hkey, hnone]
      rfl
    · rw [if_neg hkey, if_neg hkey]

/-! ### Writes, one after the other -/

variable [Digest]

/-- A write leaves alone what is not under its name, whether it succeeds or not. -/
theorem under_apply (hindexed : dictionary.Indexed) {edit : Edit} (hedit : edit.name? = some name)
    (hkey : key ≠ some name) :
    under dictionary key (edit.apply dictionary packet).attributes
      = under dictionary key packet.attributes := by
  cases edit with
  | add written value =>
    cases hedit
    show under dictionary key (packet.settle (packet.add dictionary name value)).attributes = _
    cases h : packet.add dictionary name value with
    | error cause => rfl
    | ok next =>
      obtain ⟨attr, -, hunder⟩ := under_of_add hindexed h
      exact (hunder key).trans (if_neg hkey)
  | set written value =>
    cases hedit
    show under dictionary key (packet.settle (packet.set dictionary name value)).attributes = _
    cases h : packet.set dictionary name value with
    | error cause => rfl
    | ok next =>
      obtain ⟨attr, -, hunder⟩ := under_of_set hindexed h
      exact (hunder key).trans (if_neg hkey)
  | _ => cases hedit

/-- Any number of writes leave alone what is under none of their names. -/
theorem under_run (hindexed : dictionary.Indexed) {edits : List Edit}
    (hedits : ∀ edit ∈ edits, ∃ name, edit.name? = some name ∧ key ≠ some name) :
    under dictionary key (packet.run dictionary edits).attributes
      = under dictionary key packet.attributes := by
  induction edits generalizing packet with
  | nil => rfl
  | cons edit edits ih =>
    obtain ⟨⟨name, hname, hkey⟩, hrest⟩ := List.forall_mem_cons.1 hedits
    show under dictionary key ((edit.apply dictionary packet).run dictionary edits).attributes = _
    rw [ih hrest, under_apply hindexed hname hkey]

/-- What is read by name after a write by name, with a dictionary that any registrations lead to.

* After `add` the values of the name are the old ones and the one that was stored, and those of
  every other name are the old ones.
* After `set` the name is found with the value that was stored. It took the place of the first value
  of the name, or is the only one. The values of every other name are the old ones.
* Attributes without a name play no part in any read, and are the same after any writes. -/
theorem reads_follow_writes (hbuilt : dictionary.BuiltFrom fun _ => True) (packet : Packet)
    (name : String) (value : Value) :
    (∀ next, packet.add dictionary name value = .ok next →
      ∃ attr, dictionary.resolve name value = .ok attr ∧
        next.values dictionary name = packet.values dictionary name ++ [attr.value] ∧
        ∀ other, other ≠ name →
          next.values dictionary other = packet.values dictionary other) ∧
    (∀ next, packet.set dictionary name value = .ok next →
      ∃ attr, Lands dictionary packet name value attr ∧
        next.find? dictionary name = some attr ∧
        next.value? dictionary name = some attr.value ∧
        next.values dictionary name = attr.value :: (packet.values dictionary name).tail ∧
        ∀ other, other ≠ name →
          next.values dictionary other = packet.values dictionary other) ∧
    (∀ sought,
      (packet.named dictionary).find? dictionary sought = packet.find? dictionary sought ∧
      (packet.named dictionary).values dictionary sought = packet.values dictionary sought) ∧
    ∀ edits : List Edit, (∀ edit ∈ edits, edit.name?.isSome) →
      under dictionary none (packet.run dictionary edits).attributes
        = under dictionary none packet.attributes := by
  have hindexed := hbuilt.indexed
  have hkey : ∀ {other : String}, other ≠ name → some other ≠ some name := by
    intro other hother hsame
    exact hother (Option.some.inj hsame)
  refine ⟨?_, ?_, ?_, ?_⟩
  · intro next h
    obtain ⟨attr, hattr, hunder⟩ := under_of_add hindexed h
    refine ⟨attr, hattr, ?_, fun other hother =>
      values_congr ((hunder _).trans (if_neg (hkey hother)))⟩
    rw [values_eq_map_under, hunder, if_pos rfl, List.map_append]
    rfl
  · intro next h
    obtain ⟨attr, hlands, hunder⟩ := under_of_set hindexed h
    have hfound : next.find? dictionary name = some attr := by
      rw [find?_eq_head?_under, hunder, if_pos rfl]
      rfl
    refine ⟨attr, hlands, hfound, ?_, ?_, fun other hother =>
      values_congr ((hunder _).trans (if_neg (hkey hother)))⟩
    · rw [value?, hfound]
      rfl
    · rw [values_eq_map_under, hunder, if_pos rfl, List.map_cons, List.map_tail]
      rfl
  · intro sought
    rw [find?_eq_head?_under, find?_eq_head?_under, values_eq_map_under, values_eq_map_under,
      under_named]
    exact ⟨rfl, rfl⟩
  · intro edits hedits
    refine under_run hindexed fun edit hedit => ?_
    obtain ⟨written, hwritten⟩ := Option.isSome_iff_exists.1 (hedits edit hedit)
    exact ⟨written, hwritten, nofun⟩

end

/-- The standard dictionary, with a second type under the name of the first. The codec of the second
type does not normalize. -/
def disputedName : Dictionary :=
  Dictionary.standard.register 200 "User-Name" Codec.integer.bare

/-- A request with a user name, an attribute of a type without a name, and a port. -/
def partlyNamed : Packet where
  code := .accessRequest
  identifier := 7
  authenticator := .zero
  secret := []
  attributes := [⟨1, .text "nemo"⟩, ⟨250, .bytes [9]⟩, ⟨5, .integer 3⟩]

/-- Under the shared name a number is added to the one type, and octets are set as text of the
other. Both are read back under the name, in the order in which they stand. The port and the
attribute without a name are as they were. -/
theorem reads_follow_writes_disputedName :
    disputedName.BuiltFrom (fun _ => True) ∧
      (∃ added, partlyNamed.add disputedName "User-Name" (.integer 7) = .ok added ∧
        added.values disputedName "User-Name" = [.text "nemo", .integer 7] ∧
        added.values disputedName "NAS-Port" = [.integer 3]) ∧
      (∃ changed, partlyNamed.set disputedName "User-Name" (.bytes [98, 111, 98]) = .ok changed ∧
        changed.value? disputedName "User-Name" = some (.text "bob") ∧
        changed.values disputedName "User-Name" = [.text "bob"]) ∧
      under disputedName none
          (partlyNamed.run disputedName
            [.add "User-Name" (.integer 7), .set "NAS-Port" (.text "x")]).attributes
        = [⟨250, .bytes [9]⟩] := by
  have hbuilt : disputedName.BuiltFrom fun _ => True :=
    .register 200 "User-Name" (Dictionary.builtFrom_standard.mono fun _ _ => trivial) trivial
  obtain ⟨hadd, -, -, hnameless⟩ :=
    reads_follow_writes hbuilt partlyNamed "User-Name" (.integer 7)
  obtain ⟨-, hset, -⟩ :=
    reads_follow_writes hbuilt partlyNamed "User-Name" (.bytes [98, 111, 98])
  have hname : partlyNamed.values disputedName "User-Name" = [.text "nemo"] := by decide +kernel
  refine ⟨hbuilt, ?_, ?_, ?_⟩
  · have hadded : partlyNamed.add disputedName "User-Name" (.integer 7)
        = .ok (partlyNamed.append ⟨200, .integer 7⟩) := by
      decide +kernel
    obtain ⟨attr, hattr, hvalues, hothers⟩ := hadd _ hadded
    have hmade : disputedName.resolve "User-Name" (.integer 7) = .ok ⟨200, .integer 7⟩ := by
      decide +kernel
    rw [hmade] at hattr
    cases hattr
    refine ⟨_, hadded, ?_, ?_⟩
    · rw [hvalues, hname]
      rfl
    · rw [hothers "NAS-Port" (by decide)]
      decide +kernel
  · have hchanged : partlyNamed.set disputedName "User-Name" (.bytes [98, 111, 98])
        = .ok { partlyNamed with
            attributes := [⟨1, .text "bob"⟩, ⟨250, .bytes [9]⟩, ⟨5, .integer 3⟩] } := by
      decide +kernel
    obtain ⟨attr, -, hfound, hvalue, hvalues, -⟩ := hset _ hchanged
    have hbob : attr = ⟨1, .text "bob"⟩ := by
      have hfirst : Packet.find? disputedName { partlyNamed with
          attributes := [⟨1, .text "bob"⟩, ⟨250, .bytes [9]⟩, ⟨5, .integer 3⟩] } "User-Name"
            = some ⟨1, .text "bob"⟩ := by
        decide +kernel
      rw [hfirst] at hfound
      exact (Option.some.inj hfound).symm
    refine ⟨_, hchanged, ?_, ?_⟩
    · rw [hvalue, hbob]
    · rw [hvalues, hbob, hname]
      rfl
  · rw [hnameless _ (by decide)]
    decide +kernel

end Radius.Packet
