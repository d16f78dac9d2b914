import Radius.Packet.Access

/-!
# `Radius.Proofs.Packet.Access`: the first attribute of a name

`replaceFirst` walks along the attributes and decides at each one whether it has the name. Every
later proof wants the outcome of the walk: either some attribute is the first one of the name
(`FirstNamed`), or none has it (`Unnamed`), and never both. The two cases cover everything
(`firstNamed_or_unnamed`), and each has one equation:

* `set_of_firstNamed`: the value goes into that attribute, if its codec takes it.
* `set_of_unnamed`: the value is added.

`set_eq_ok_iff` is what a packet can be after a value was set, in both cases at once.
-/

set_option autoImplicit false

namespace Radius.Packet

/-- No attribute has the name. -/
def Unnamed (dictionary : Dictionary) (name : String) (attributes : List Attribute) : Prop :=
  ∀ attr ∈ attributes, dictionary.name? attr.type ≠ some name

/-- `attr` is the first attribute of a name, `before` and `after` are the others. -/
structure FirstNamed (dictionary : Dictionary) (name : String)
    (attributes before : List Attribute) (attr : Attribute) (after : List Attribute) : Prop where
  split : attributes = before ++ attr :: after
  named : dictionary.name? attr.type = some name
  unnamed : Unnamed dictionary name before

section
variable {dictionary : Dictionary} {name : String} {attributes before after : List Attribute}
  {attr : Attribute} {packet : Packet}

/-- An attribute has the name that the dictionary gives its type. -/
theorem hasName_iff :
    hasName dictionary name attr = true ↔ dictionary.name? attr.type = some name :=
  beq_iff_eq

/-! ### Finding -/

/-- The search for a name stops at the first attribute that has it. -/
theorem find?_hasName_eq_some_iff :
    attributes.find? (hasName dictionary name) = some attr ↔
      ∃ before after, FirstNamed dictionary name attributes before attr after := by
  rw [List.find?_eq_some_iff_append]
  constructor
  · rintro ⟨hnamed, before, after, hsplit, hbefore⟩
    refine ⟨before, after, hsplit, hasName_iff.1 hnamed, ?_⟩
    intro other hother hname
    have hnot := hbefore other hother
    rw [hasName_iff.2 hname] at hnot
    cases hnot
  · rintro ⟨before, after, hsplit, hnamed, hbefore⟩
    refine ⟨hasName_iff.2 hnamed, before, after, hsplit, ?_⟩
    intro other hother
    rw [Bool.not_eq_true', ← Bool.not_eq_true, hasName_iff]
    exact hbefore other hother

/-- Some attribute is the first one of a name, or none has it. -/
theorem firstNamed_or_unnamed (dictionary : Dictionary) (name : String)
    (attributes : List Attribute) :
    (∃ before attr after, FirstNamed dictionary name attributes before attr after) ∨
      Unnamed dictionary name attributes := by
  cases hfound : attributes.find? (hasName dictionary name) with
  | some attr =>
    obtain ⟨before, after, hfirst⟩ := find?_hasName_eq_some_iff.1 hfound
    exact .inl ⟨before, attr, after, hfirst⟩
  | none =>
    refine .inr fun attr hattr hname => ?_
    have hnot := List.find?_eq_none.1 hfound attr hattr
    exact hnot (hasName_iff.2 hname)

/-- The first attribute of a name is the one that is found. -/
theorem find?_of_firstNamed (h : FirstNamed dictionary name packet.attributes before attr after) :
    packet.find? dictionary name = some attr :=
  find?_hasName_eq_some_iff.2 ⟨before, after, h⟩

/-! ### Adding -/

/-- What a packet is after a value was added. -/
theorem add_eq_ok_iff {value : Value} {next : Packet} :
    packet.add dictionary name value = .ok next ↔
      ∃ attr, dictionary.resolve name value = .ok attr ∧ next = packet.append attr := by
  unfold add
  cases dictionary.resolve name value with
  | ok attr => simp [eq_comm]
  | error cause => simp

/-! ### Setting -/

/-- What becomes of the attributes if one of them is the first of the name. -/
theorem replaceFirst_of_firstNamed
    (h : FirstNamed dictionary name attributes before attr after) (value : Value) :
    replaceFirst dictionary name value attributes
      = some ((replacement (dictionary.codec attr.type) name value).map fun stored =>
          before ++ { attr with value := stored } :: after) := by
  obtain ⟨rfl, hnamed, hbefore⟩ := h
  -- By the attributes before it, which the walk passes by.
  induction before with
  | nil =>
    rw [List.nil_append, replaceFirst, if_pos (hasName_iff.2 hnamed)]
    cases replacement (dictionary.codec attr.type) name value with
    | ok stored => rfl
    | error cause => rfl
  | cons other before ih =>
    obtain ⟨hother, hrest⟩ := List.forall_mem_cons.1 hbefore
    have hnot : ¬ hasName dictionary name other = true := fun hname => hother (hasName_iff.1 hname)
    rw [List.cons_append, replaceFirst, if_neg hnot, ih hrest]
    cases replacement (dictionary.codec attr.type) name value with
    | ok stored => rfl
    | error cause => rfl

/-- Nothing becomes of them if none has the name. -/
theorem replaceFirst_of_unnamed (h : Unnamed dictionary name attributes) (value : Value) :
    replaceFirst dictionary name value attributes = none := by
  induction attributes with
  | nil => rfl
  | cons attr rest ih =>
    obtain ⟨hattr, hrest⟩ := List.forall_mem_cons.1 h
    have hnot : ¬ hasName dictionary name attr = true := fun hname => hattr (hasName_iff.1 hname)
    rw [replaceFirst, if_neg hnot, ih hrest]
    rfl

/-- A value that is set goes into the first attribute of the name, if its codec takes it. -/
theorem set_of_firstNamed (h : FirstNamed dictionary name packet.attributes before attr after)
    (value : Value) :
    packet.set dictionary name value
      = (replacement (dictionary.codec attr.type) name value).map fun stored =>
          { packet with attributes := before ++ { attr with value := stored } :: after } := by
  rw [set, replaceFirst_of_firstNamed h]
  cases replacement (dictionary.codec attr.type) name value with
  | ok stored => rfl
  | error cause => rfl

/-- A value that is set is added if no attribute has the name. -/
theorem set_of_unnamed (h : Unnamed dictionary name packet.attributes) (value : Value) :
    packet.set dictionary name value = packet.add dictionary name value := by
  rw [set, replaceFirst_of_unnamed h]

/-- What a packet is after a value was set. -/
theorem set_eq_ok_iff {value : Value} {next : Packet} :
    packet.set dictionary name value = .ok next ↔
      (∃ before attr after stored,
        FirstNamed dictionary name packet.attributes before attr after ∧
        replacement (dictionary.codec attr.type) name value = .ok stored ∧
        next = { packet with attributes := before ++ { attr with value := stored } :: after }) ∨
      (Unnamed dictionary name packet.attributes ∧
        packet.add dictionary name value = .ok next) := by
  constructor
  · intro h
    rcases firstNamed_or_unnamed dictionary name packet.attributes with
      ⟨before, attr, after, hfirst⟩ | hunnamed
    · rw [set_of_firstNamed hfirst] at h
      cases hstored : replacement (dictionary.codec attr.type) name value with
      | ok stored =>
        rw [hstored] at h
        cases h
        exact .inl ⟨before, attr, after, stored, hfirst, hstored, rfl⟩
      | error cause =>
        rw [hstored] at h
        cases h
    · rw [set_of_unnamed hunnamed] at h
      exact .inr ⟨hunnamed, h⟩
  · rintro (⟨before, attr, after, stored, hfirst, hstored, rfl⟩ | ⟨hunnamed, hadded⟩)
    · rw [set_of_firstNamed hfirst, hstored]
      rfl
    · rw [set_of_unnamed hunnamed, hadded]

/-! ### The user and the password -/

end

end Radius.Packet
