import Radius.Proofs.Packet.Access
import Radius.Proofs.Packet.Run
import Radius.Proofs.Packet.Slices

/-!
# `Radius.Proofs.Packet.InPlace`: what calls leave behind

The operations of `Radius.Packet` answer with a new packet, so a failed one cannot touch the old. A
program that holds a packet changes it in place, one write after the other, and an error that comes
after a write does not take the write back. `Call` is such a program, and `Call.add`, `Call.set` and
`Call.encode` are the operations as programs, with their writes where they happen: `set` finds the
place, asks the codec, and then writes the value there; `encode` writes the authenticator after
three stages that can fail. `run_add`, `run_set` and `run_encode` say that each leaves what its
operation answers, and the packet as it was where the operation fails.

`footprint` says what has changed after each call.
-/

set_option autoImplicit false

namespace Radius.Packet

/-- A program that changes a packet in place and can fail on the way. What it has written by then
stays written. -/
abbrev Call (α : Type) : Type :=
  EStateM PacketError Packet α

namespace Call

/-- A step that can fail and writes nothing. -/
def attempt {ε α : Type} (cause : ε → PacketError) (result : Except ε α) : Call α :=
  match result with
  | .ok value => pure value
  | .error fault => throw (cause fault)

/-- Adds an attribute of a name and a value. -/
def add (dictionary : Dictionary) (name : String) (value : Value) : Call Unit := do
  let attr ← attempt .dictionary (dictionary.resolve name value)
  modify fun packet => { packet with attributes := packet.attributes ++ [attr] }

/-- Writes a value at one place of the attributes. -/
def writeValue (place : Nat) (value : Value) : Call Unit :=
  modify fun packet =>
    { packet with attributes := packet.attributes.modify place fun attr => { attr with value } }

/-- Puts a value in the first attribute of a name, or adds one if there is none. -/
def set (dictionary : Dictionary) (name : String) (value : Value) : Call Unit := do
  let packet ← get
  match packet.attributes.findFinIdx? (hasName dictionary name) with
  | some place =>
    match (dictionary.codec packet.attributes[place].type).normalize? with
    | some normalize =>
      let stored ← attempt (fun cause => .dictionary (.invalidValue name cause)) (normalize value)
      writeValue place stored
    | none => writeValue place value
  | none => add dictionary name value

/-- Writes the packet to the wire. Some codes keep the digest that was sent. -/
def encode [Digest] (dictionary : Dictionary) : Call (List UInt8) := do
  let packet ← get
  let wire ← attempt id (packet.wire dictionary)
  if packet.code.keepsDigest then
    modify fun packet => { packet with authenticator := Block.ofBytes (wire.drop 4) }
  return wire

end Call

/-- The end of a call that has written what an operation answers, and nothing where it fails. -/
def ending {α : Type} (packet : Packet) :
    Except PacketError (α × Packet) → EStateM.Result PacketError Packet α
  | .ok (value, next) => .ok value next
  | .error cause => .error cause packet

section
variable {dictionary : Dictionary} {name : String} {value : Value} {packet : Packet}

/-! ### Programs and operations -/

/-- A program goes on after a step that succeeds, and stops with the packet as it is after one that
fails. -/
theorem run_attempt_bind {ε α β : Type} (cause : ε → PacketError) (result : Except ε α)
    (next : α → Call β) (packet : Packet) :
    (Call.attempt cause result >>= next).run packet
      = match result with
        | .ok value => (next value).run packet
        | .error fault => .error (cause fault) packet := by
  cases result with
  | ok value => rfl
  | error fault => rfl

/-- The place that a walk along the attributes stops at is that of the first one of the name. -/
theorem firstNamed_of_findFinIdx? {attributes : List Attribute} {place : Fin attributes.length}
    (h : attributes.findFinIdx? (hasName dictionary name) = some place) :
    FirstNamed dictionary name attributes (attributes.take place) attributes[place]
      (attributes.drop (place + 1)) := by
  obtain ⟨hnamed, hbefore⟩ := List.findFinIdx?_eq_some_iff.1 h
  refine ⟨?_, hasName_iff.1 hnamed, ?_⟩
  · show attributes = attributes.take place ++ attributes[place.val] :: attributes.drop (place + 1)
    rw [List.getElem_cons_drop, List.take_append_drop]
  · intro other hother hname
    obtain ⟨j, hj, rfl⟩ := List.mem_take_iff_getElem.1 hother
    have hearlier : j < place.val := by omega
    exact hbefore ⟨j, by omega⟩ hearlier (hasName_iff.2 hname)

/-- A write changes the value at its place. -/
theorem run_writeValue (place : Nat) (value : Value) (packet : Packet) :
    (Call.writeValue place value).run packet
      = .ok () { packet with
          attributes := packet.attributes.modify place fun attr => { attr with value } } := rfl

/-- Adding in place leaves what `add` answers. -/
theorem run_add : (Call.add dictionary name value).run packet
    = packet.ending ((packet.add dictionary name value).map ((), ·)) := by
  rw [Call.add, run_attempt_bind, add]
  cases dictionary.resolve name value with
  | ok attr => rfl
  | error cause => rfl

/-- Setting in place leaves what `set` answers. -/
theorem run_set : (Call.set dictionary name value).run packet
    = packet.ending ((packet.set dictionary name value).map ((), ·)) := by
  show (match packet.attributes.findFinIdx? (hasName dictionary name) with
    | some place => _
    | none => Call.add dictionary name value : Call Unit).run packet = _
  cases hplace : packet.attributes.findFinIdx? (hasName dictionary name) with
  | none =>
    have hunnamed : Unnamed dictionary name packet.attributes := fun attr hattr hname =>
      List.findFinIdx?_eq_none_iff.1 hplace attr hattr (hasName_iff.2 hname)
    rw [set_of_unnamed hunnamed]
    exact run_add
  | some place =>
    -- The value that is written at the place stands between the attributes before and after it.
    have hwrite : ∀ stored, (Call.writeValue place stored).run packet
        = .ok () { packet with
            attributes := packet.attributes.take place
              ++ { packet.attributes[place] with value := stored }
                :: packet.attributes.drop (place + 1) } := by
      intro stored
      rw [run_writeValue, List.modify_eq_take_cons_drop place.isLt]
      rfl
    rw [set_of_firstNamed (firstNamed_of_findFinIdx? hplace), replacement]
    dsimp only
    cases (dictionary.codec packet.attributes[place].type).normalize? with
    | none => exact hwrite value
    | some normalize =>
      dsimp only
      rw [run_attempt_bind]
      cases normalize value with
      | ok stored => exact hwrite stored
      | error cause => rfl

/-- Encoding in place leaves what `encode` answers. -/
theorem run_encode [Digest] : (Call.encode dictionary).run packet
    = packet.ending (packet.encode dictionary) := by
  show (Call.attempt id (packet.wire dictionary) >>= _).run packet = _
  rw [run_attempt_bind, encode]
  cases packet.wire dictionary with
  | error cause => rfl
  | ok wire =>
    rw [ending, sent]
    cases packet.code.keepsDigest with
    | true => rfl
    | false => rfl

/-! ### What has changed -/

/-- A call that fails leaves the packet as it was. -/
theorem eq_of_ending_eq_error {α : Type} {result : Except PacketError (α × Packet)}
    {cause : PacketError} {after : Packet} (h : packet.ending result = .error cause after) :
    after = packet := by
  cases result with
  | ok pair => cases h
  | error other =>
    cases h
    rfl

/-- One that succeeds leaves the packet that is answered. -/
theorem ending_eq_ok_iff {α : Type} {result : Except PacketError (α × Packet)} {answer : α}
    {after : Packet} : packet.ending result = .ok answer after ↔ result = .ok (answer, after) := by
  cases result with
  | ok pair => simp [ending, Prod.ext_iff]
  | error cause => simp [ending]

/-- The same for a call without an answer. -/
theorem ending_map_eq_ok_iff {result : Except PacketError Packet} {after : Packet} :
    packet.ending (result.map ((), ·)) = .ok () after ↔ result = .ok after := by
  rw [ending_eq_ok_iff]
  cases result with
  | ok next => simp [Except.map]
  | error cause => simp [Except.map]

/-- What its sender keeps of a packet: the digest that was sent, for two codes, and otherwise the
packet as it was. -/
theorem eq_sent_iff [Digest] {wire : List UInt8} {after : Packet}
    (hwire : packet.wire dictionary = .ok wire) :
    after = packet.sent wire ↔
      if packet.code = .coaRequest ∨ packet.code = .disconnectRequest then
        slice? wire 4 20 = some after.authenticator.bytes ∧
          after = { packet with authenticator := after.authenticator }
      else after = packet := by
  rw [sent]
  simp only [Code.keepsDigest_iff]
  split
  next =>
    rw [slice?_authenticator hwire, Option.some.injEq]
    constructor
    · rintro rfl
      exact ⟨rfl, rfl⟩
    · rintro ⟨hbytes, hafter⟩
      rw [hafter, ← Block.ext hbytes]
  next => exact Iff.rfl

end

/-- What has changed in a packet after a call, with any dictionary.

* The programs answer what the operations do.
* A call that fails leaves every part of the packet as it was.
* After `add` there is one attribute more, at the end.
* After `set` the first attribute of the name has another value, or none had the name and there is
  one attribute more, at the end.
* After `encode` two codes have the bytes 4 to 19 of what was sent for their authenticator, and
  nothing has changed for the others. -/
theorem footprint [Digest] (dictionary : Dictionary) (packet : Packet) (name : String)
    (value : Value) :
    ((Call.add dictionary name value).run packet
        = packet.ending ((packet.add dictionary name value).map ((), ·)) ∧
      (Call.set dictionary name value).run packet
        = packet.ending ((packet.set dictionary name value).map ((), ·)) ∧
      (Call.encode dictionary).run packet = packet.ending (packet.encode dictionary)) ∧
    (∀ cause after,
      (Call.add dictionary name value).run packet = .error cause after ∨
      (Call.set dictionary name value).run packet = .error cause after ∨
      (Call.encode dictionary).run packet = .error cause after → after = packet) ∧
    (∀ after, (Call.add dictionary name value).run packet = .ok () after ↔
      ∃ attr, dictionary.resolve name value = .ok attr ∧
        after = { packet with attributes := packet.attributes ++ [attr] }) ∧
    (∀ after, (Call.set dictionary name value).run packet = .ok () after ↔
      (∃ before attr rest stored,
        FirstNamed dictionary name packet.attributes before attr rest ∧
        replacement (dictionary.codec attr.type) name value = .ok stored ∧
        after = { packet with attributes := before ++ { attr with value := stored } :: rest }) ∨
      (Unnamed dictionary name packet.attributes ∧
        ∃ attr, dictionary.resolve name value = .ok attr ∧
          after = { packet with attributes := packet.attributes ++ [attr] })) ∧
    ∀ wire after, (Call.encode dictionary).run packet = .ok wire after ↔
      packet.wire dictionary = .ok wire ∧
        if packet.code = .coaRequest ∨ packet.code = .disconnectRequest then
          slice? wire 4 20 = some after.authenticator.bytes ∧
            after = { packet with authenticator := after.authenticator }
        else after = packet := by
  refine ⟨⟨run_add, run_set, run_encode⟩, ?_, ?_, ?_, ?_⟩
  · rintro cause after (h | h | h)
    · rw [run_add] at h
      exact eq_of_ending_eq_error h
    · rw [run_set] at h
      exact eq_of_ending_eq_error h
    · rw [run_encode] at h
      exact eq_of_ending_eq_error h
  · intro after
    rw [run_add, ending_map_eq_ok_iff]
    exact add_eq_ok_iff
  · intro after
    rw [run_set, ending_map_eq_ok_iff, set_eq_ok_iff, add_eq_ok_iff]
    rfl
  · intro wire after
    rw [run_encode, ending_eq_ok_iff, encode_eq_ok_iff]
    exact and_congr_right eq_sent_iff

/-- A request with two attributes of one name. Its code is one of the two that keep the digest. -/
def portChange : Packet where
  code := .coaRequest
  identifier := 9
  authenticator := .zero
  secret := [120, 121]
  attributes := [⟨5, .integer 1⟩, ⟨5, .integer 2⟩]

/-- A number in words is refused and changes nothing, one in digits goes into the first of the two
attributes, and after sending the packet has the authenticator that was sent. -/
theorem footprint_portChange :
    (∃ cause after, (Call.set .standard "NAS-Port" (.text "forty-two")).run portChange
      = .error cause after ∧ after = portChange) ∧
    (Call.set .standard "NAS-Port" (.text "42")).run portChange
      = .ok () { portChange with attributes := [⟨5, .integer 42⟩, ⟨5, .integer 2⟩] } ∧
    ∃ wire after, (Call.encode .standard).run portChange = .ok wire after ∧
      slice? wire 4 20 = some after.authenticator.bytes ∧
      after.attributes = portChange.attributes := by
  obtain ⟨⟨-, hset, -⟩, hfailed, -⟩ :=
    footprint .standard portChange "NAS-Port" (.text "forty-two")
  obtain ⟨⟨-, hreplaced, hencode⟩, -, -, -, hsent⟩ :=
    footprint .standard portChange "NAS-Port" (.text "42")
  refine ⟨?_, ?_, ?_⟩
  · have hrefused : portChange.set .standard "NAS-Port" (.text "forty-two")
        = .error (.dictionary (.invalidValue "NAS-Port" (.invalidInteger "forty-two"))) := by
      decide +kernel
    rw [hrefused] at hset
    exact ⟨_, _, hset, hfailed _ _ (.inr (.inl hset))⟩
  · have hstored : portChange.set .standard "NAS-Port" (.text "42")
        = .ok { portChange with attributes := [⟨5, .integer 42⟩, ⟨5, .integer 2⟩] } := by
      decide +kernel
    rw [hreplaced, hstored]
    rfl
  · have hrecords : portChange.records .standard
        = .ok [5, 6, 0, 0, 0, 1, 5, 6, 0, 0, 0, 2] := by
      decide +kernel
    obtain ⟨authenticator, kept, hanswer⟩ :=
      exists_encode_of_mem_computed hrecords (by decide) (by decide)
    rw [hanswer] at hencode
    have hkept := ((hsent _ _).1 hencode).2
    rw [if_pos (.inl rfl)] at hkept
    refine ⟨_, kept, hencode, hkept.1, ?_⟩
    rw [hkept.2]

end Radius.Packet
