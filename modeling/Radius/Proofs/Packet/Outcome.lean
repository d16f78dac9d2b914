import Mathlib.Algebra.GroupWithZero.Nat
import Radius.Digest.Md5
import Radius.Proofs.Codec.Values
import Radius.Proofs.Packet.Layout

/-!
# `Radius.Proofs.Packet.Outcome`: what comes of writing a packet

Writing goes through three stages, and the first that fails decides. `WriteFault` lists the faults
in this order: an attribute that cannot be written, with nothing but writable attributes before it
(`AttributeFault`), a length of the whole that no header can declare, a code without a form on the
wire. `LaidOut` says what stands where in the bytes of a packet that has none of these faults.

* `recordsOf_eq_error_iff`: the loop over the attributes stops at the first that cannot be written.
* `encode_eq_error_iff_fault`: a packet is refused for a cause exactly if that is its fault, so no
  packet has two.
* `encode_outcome`: the faults, the bytes, and the lengths of the values in them. No length is
  truncated on the way into its one or two bytes.
-/

set_option autoImplicit false

namespace Radius.Packet

/-- Why an attribute cannot be written: its codec refuses the value, or makes more bytes of it than
fit into a record. -/
inductive AttributeFault (dictionary : Dictionary) (packet : Packet) (attr : Attribute) :
    PacketError → Prop
  | refused {cause : CodecError}
      (h : (dictionary.codec attr.type).encode packet attr.value = .error cause) :
      AttributeFault dictionary packet attr (.codec cause)
  | tooLong {value : List UInt8}
      (h : (dictionary.codec attr.type).encode packet attr.value = .ok value)
      (hlong : maxValueLength < value.length) :
      AttributeFault dictionary packet attr (.attributeTooLong attr.type value.length)

/-- A hidden password fits into a record exactly if it fills fifteen blocks at most. The next block
would end after 256 bytes. -/
theorem hiddenLength_le_iff {n : Nat} : Password.hiddenLength n ≤ maxValueLength ↔ n ≤ 240 := by
  rw [Password.hiddenLength, maxValueLength]
  omega

/-- The number of bytes of a packet with these records. -/
def lengthWith (records : List Record) : Nat :=
  20 + (records.map fun record => 2 + record.value.length).sum

/-- Why a packet cannot be written. -/
inductive WriteFault (dictionary : Dictionary) (packet : Packet) : PacketError → Prop
  | value {before after : List Attribute} {attr : Attribute} {records : List Record}
      {cause : PacketError} (hsplit : packet.attributes = before ++ attr :: after)
      (hbefore : List.Forall₂ (Writes dictionary packet) before records)
      (hfault : AttributeFault dictionary packet attr cause) :
      WriteFault dictionary packet cause
  | length {records : List Record}
      (hwrites : List.Forall₂ (Writes dictionary packet) packet.attributes records)
      (hlong : maxLength < lengthWith records) :
      WriteFault dictionary packet (.packetTooLong (lengthWith records))
  | code {records : List Record}
      (hwrites : List.Forall₂ (Writes dictionary packet) packet.attributes records)
      (hmost : lengthWith records ≤ maxLength)
      (hstored : packet.code ∉ Code.stored) (hcomputed : packet.code ∉ Code.computed) :
      WriteFault dictionary packet (.unknownCode packet.code.toByte)

/-- The bytes are a packet with these records, whatever its authenticator. -/
structure LaidOut (packet : Packet) (records : List Record) (wire : List UInt8) : Prop where
  length_eq : wire.length = lengthWith records
  least : 20 ≤ wire.length
  most : wire.length ≤ 4095
  code : wire[0]? = some packet.code.toByte
  identifier : wire[1]? = some packet.identifier
  length_bytes : (wire.drop 2).take 2 = bigEndian 2 wire.length
  declares : lengthField wire = wire.length
  records : wire.drop 20 = records.flatMap Record.bytes

section
variable {dictionary : Dictionary} {packet : Packet} {cause : PacketError}

/-! ### The attributes -/

/-- The value of an attribute is refused for a cause exactly if that is its fault. -/
theorem encodeValue_eq_error_iff {attr : Attribute} :
    encodeValue dictionary packet attr = .error cause ↔
      AttributeFault dictionary packet attr cause := by
  unfold encodeValue
  constructor
  · intro h
    split at h
    next refusal hrefused =>
      cases h
      exact .refused hrefused
    next value hvalue =>
      split at h
      next hlong =>
        cases h
        exact .tooLong hvalue hlong
      next => cases h
  · intro h
    cases h with
    | refused hrefused => rw [hrefused]
    | tooLong hvalue hlong =>
      rw [hvalue]
      exact if_pos hlong

/-- The attributes are refused for the fault of the first one that has one. -/
theorem recordsOf_eq_error_iff {attributes : List Attribute} :
    recordsOf dictionary packet attributes = .error cause ↔
      ∃ before attr after records, attributes = before ++ attr :: after ∧
        List.Forall₂ (Writes dictionary packet) before records ∧
        AttributeFault dictionary packet attr cause := by
  induction attributes with
  | nil =>
    constructor
    · intro h
      cases h
    · rintro ⟨before, attr, after, records, hsplit, -⟩
      simp at hsplit
  | cons first rest ih =>
    rw [recordsOf]
    constructor
    · intro h
      split at h
      next fault hfault =>
        -- The first attribute is at fault, and nothing stands before it.
        cases h
        exact ⟨[], first, rest, [], rfl, .nil, encodeValue_eq_error_iff.1 hfault⟩
      next value hvalue =>
        split at h
        next fault hfault =>
          cases h
          obtain ⟨before, attr, after, records, rfl, hbefore, hattr⟩ := ih.1 hfault
          exact ⟨first :: before, attr, after, ⟨first.type, value⟩ :: records, rfl,
            .cons ⟨rfl, hvalue⟩ hbefore, hattr⟩
        next => cases h
    · rintro ⟨before, attr, after, records, hsplit, hbefore, hattr⟩
      cases hbefore with
      | nil =>
        obtain ⟨rfl, rfl⟩ := List.cons.inj hsplit
        rw [encodeValue_eq_error_iff.2 hattr]
      | @cons _ record before records hwrite hbefore =>
        -- The first attribute is written, so the fault is further on.
        obtain ⟨rfl, rfl⟩ := List.cons.inj hsplit
        rw [hwrite.2, ih.2 ⟨before, attr, after, records, rfl, hbefore, hattr⟩]

/-! ### The whole -/

/-- The records of a packet take the bytes that its header counts. -/
theorem lengthWith_eq (records : List Record) :
    lengthWith records = 20 + (records.flatMap Record.bytes).length := by
  rw [lengthWith, List.length_flatMap]
  have hsum : (records.map fun record => 2 + record.value.length)
      = records.map fun record => record.bytes.length := by
    apply List.map_congr_left
    intro record _
    rw [Record.length_bytes, Nat.add_comm]
  rw [hsum]

/-- The bytes that are put together for a packet are laid out as its records. -/
theorem laidOut_assembled (authenticator : Block) {records : List Record}
    (hmost : lengthWith records ≤ maxLength) :
    LaidOut packet records (packet.assembled authenticator (records.flatMap Record.bytes)) where
  length_eq := by rw [length_assembled, lengthWith_eq]
  least := by rw [length_assembled]; omega
  most := by rw [length_assembled, ← lengthWith_eq]; exact hmost
  code := rfl
  identifier := rfl
  length_bytes := by rw [length_assembled]; rfl
  declares := by
    rw [lengthWith_eq] at hmost
    rw [lengthField_assembled _ _ _ hmost, length_assembled]
  records := drop_assembled _ _ _

variable [Digest]

/-- A packet whose attributes are all written fails for its length, fails for its code or is
written. -/
theorem encode_of_writes {records : List Record}
    (hwrites : List.Forall₂ (Writes dictionary packet) packet.attributes records) :
    (maxLength < lengthWith records ∧
      packet.encode dictionary = .error (.packetTooLong (lengthWith records))) ∨
    (lengthWith records ≤ maxLength ∧ packet.code ∉ Code.stored ∧ packet.code ∉ Code.computed ∧
      packet.encode dictionary = .error (.unknownCode packet.code.toByte)) ∨
    (lengthWith records ≤ maxLength ∧ (packet.code ∈ Code.stored ∨ packet.code ∈ Code.computed) ∧
      ∃ wire kept, packet.encode dictionary = .ok (wire, kept) ∧ LaidOut packet records wire) := by
  have hrecords : packet.records dictionary = .ok (records.flatMap Record.bytes) :=
    recordsOf_eq_ok_iff.2 ⟨records, hwrites, framed_of_writes hwrites⟩
  -- The length is checked before the code, so a long packet is refused for its length only.
  by_cases hlong : maxLength < lengthWith records
  · refine .inl ⟨hlong, ?_⟩
    rw [lengthWith_eq] at hlong ⊢
    rw [encode_eq_error_iff, wire_of_long hrecords hlong]
  have hmost := Nat.not_lt.mp hlong
  have hfits : 20 + (records.flatMap Record.bytes).length ≤ maxLength := by
    rwa [← lengthWith_eq]
  by_cases hstored : packet.code ∈ Code.stored
  · exact .inr (.inr ⟨hmost, .inl hstored, _, _, encode_of_mem_stored hrecords hfits hstored,
      laidOut_assembled _ hmost⟩)
  by_cases hcomputed : packet.code ∈ Code.computed
  · obtain ⟨authenticator, kept, hencode⟩ :=
      exists_encode_of_mem_computed hrecords hfits hcomputed
    exact .inr (.inr ⟨hmost, .inr hcomputed, _, kept, hencode, laidOut_assembled _ hmost⟩)
  · exact .inr (.inl ⟨hmost, hstored, hcomputed, encode_of_unsealable hrecords hfits
      (Code.sealing_eq_unsealable_iff.2 ⟨hstored, hcomputed⟩)⟩)

/-- A packet is refused for a cause exactly if that is its fault. -/
theorem encode_eq_error_iff_fault :
    packet.encode dictionary = .error cause ↔ WriteFault dictionary packet cause := by
  constructor
  · intro h
    cases hrecords : packet.records dictionary with
    | error fault =>
      -- An attribute is at fault, and its fault is the one that is reported.
      rw [encode_eq_error_iff, Packet.wire, hrecords] at h
      cases h
      obtain ⟨before, attr, after, records, hsplit, hbefore, hattr⟩ :=
        recordsOf_eq_error_iff.1 hrecords
      exact .value hsplit hbefore hattr
    | ok body =>
      obtain ⟨records, hwrites, -⟩ := recordsOf_eq_ok_iff.1 hrecords
      rcases encode_of_writes hwrites with
        ⟨hlong, h'⟩ | ⟨hmost, hstored, hcomputed, h'⟩ | ⟨-, -, wire, kept, h', -⟩
      · rw [h'] at h; cases h
        exact .length hwrites hlong
      · rw [h'] at h; cases h
        exact .code hwrites hmost hstored hcomputed
      · rw [h'] at h; cases h
  · intro h
    cases h with
    | value hsplit hbefore hattr =>
      have hrecords : packet.records dictionary = .error cause :=
        recordsOf_eq_error_iff.2 ⟨_, _, _, _, hsplit, hbefore, hattr⟩
      rw [encode_eq_error_iff, Packet.wire, hrecords]
    | length hwrites hlong =>
      rcases encode_of_writes hwrites with ⟨-, h⟩ | ⟨hmost, -⟩ | ⟨hmost, -⟩
      · exact h
      · exact absurd hlong (Nat.not_lt.mpr hmost)
      · exact absurd hlong (Nat.not_lt.mpr hmost)
    | code hwrites hmost hstored hcomputed =>
      rcases encode_of_writes hwrites with ⟨hlong, -⟩ | ⟨-, -, -, h⟩ | ⟨-, hcode, -⟩
      · exact absurd hlong (Nat.not_lt.mpr hmost)
      · exact h
      · exact absurd hcode (not_or.mpr ⟨hstored, hcomputed⟩)

/-- A packet without a fault is written, as the records of its attributes. -/
theorem exists_encode_of_no_fault (h : ∀ cause, ¬ WriteFault dictionary packet cause) :
    ∃ records wire kept, List.Forall₂ (Writes dictionary packet) packet.attributes records ∧
      packet.encode dictionary = .ok (wire, kept) ∧ LaidOut packet records wire := by
  cases hrecords : packet.records dictionary with
  | error cause =>
    -- An attribute could not be written, and that would be a fault.
    have hrefused : packet.encode dictionary = .error cause := by
      rw [encode_eq_error_iff, Packet.wire, hrecords]
    exact absurd (encode_eq_error_iff_fault.1 hrefused) (h cause)
  | ok body =>
    obtain ⟨records, hwrites, -⟩ := recordsOf_eq_ok_iff.1 hrecords
    rcases encode_of_writes hwrites with
      ⟨hlong, -⟩ | ⟨hmost, hstored, hcomputed, -⟩ | ⟨-, -, wire, kept, hencode, hlaid⟩
    · exact absurd (.length hwrites hlong) (h _)
    · exact absurd (.code hwrites hmost hstored hcomputed) (h _)
    · exact ⟨records, wire, kept, hwrites, hencode, hlaid⟩

/-- What comes of writing a packet, whatever the kinds of its values.

It is refused for its fault, and only then. Otherwise it is written as its records, behind a header
that says its code, its identifier and its length. The length byte of every record says the length
of the record. A value takes as many bytes as it has by itself, and a password as many as the whole
blocks that hide it, so that more than 240 bytes of password do not fit into a record. -/
theorem encode_outcome (hbuilt : dictionary.BuiltFrom Codec.Stock) :
    (∀ cause, packet.encode dictionary = .error cause ↔ WriteFault dictionary packet cause) ∧
    ((∀ cause, ¬ WriteFault dictionary packet cause) →
      ∃ records wire kept, List.Forall₂ (Writes dictionary packet) packet.attributes records ∧
        packet.encode dictionary = .ok (wire, kept) ∧ LaidOut packet records wire) ∧
    (∀ attr record, Writes dictionary packet attr record →
      record.type = attr.type ∧
      (UInt8.ofNat (record.value.length + 2)).toNat = record.value.length + 2 ∧
      (dictionary.codec attr.type ≠ .userPassword → record.value.length = attr.value.size) ∧
      (dictionary.codec attr.type = .userPassword →
        record.value.length = Password.hiddenLength attr.value.size)) ∧
    (∀ attr value, dictionary.codec attr.type = .userPassword →
      (dictionary.codec attr.type).encode packet attr.value = .ok value → 240 < attr.value.size →
      AttributeFault dictionary packet attr
        (.attributeTooLong attr.type (Password.hiddenLength attr.value.size))) := by
  refine ⟨fun _ => encode_eq_error_iff_fault, exists_encode_of_no_fault, ?_, ?_⟩
  · intro attr record hwrite
    obtain ⟨hvalue, hfit⟩ := encodeValue_eq_ok_iff.1 hwrite.2
    exact ⟨hwrite.1, Record.toNat_lengthByte hfit, (hbuilt.stock _).length_of_encode hvalue⟩
  · intro attr value hpassword hvalue hsize
    have hlength := ((hbuilt.stock _).length_of_encode hvalue).2 hpassword
    -- More than 240 bytes fill a sixteenth block, which ends after the last byte of a record.
    have hlong : maxValueLength < Password.hiddenLength attr.value.size := by
      rw [← Nat.not_le, hiddenLength_le_iff]
      omega
    rw [← hlength] at hlong ⊢
    exact .tooLong hvalue hlong

end

/-- A packet with three faults: a password of 241 bytes, more octets than fit into a record, and a
code without a form on the wire. -/
def threeFaults : Packet where
  code := .unknown 99
  identifier := 7
  authenticator := .zero
  secret := [120, 121, 122, 122, 121]
  attributes := [⟨1, .text "nemo"⟩, ⟨2, .bytes (List.replicate 241 97)⟩,
    ⟨25, .bytes (List.replicate 254 0)⟩]

/-- A request with a number and with no octets. -/
def portRequest : Packet where
  code := .accessRequest
  identifier := 7
  authenticator := .zero
  secret := []
  attributes := [⟨5, .integer 3⟩, ⟨25, .bytes []⟩]

/-- The bytes of the request. -/
def portWire : List UInt8 :=
  [1, 7, 0, 28] ++ List.replicate 16 0 ++ [5, 6, 0, 0, 0, 3] ++ [25, 2]

/-- The first packet is refused for its password. The second is written as its records. -/
theorem encode_outcome_samples :
    WriteFault .standard threeFaults (.attributeTooLong 2 256) ∧
      portRequest.encode .standard = .ok (portWire, portRequest) ∧
      ∃ records, List.Forall₂ (Writes .standard portRequest) portRequest.attributes records ∧
        LaidOut portRequest records portWire := by
  have hrefused : threeFaults.encode .standard = .error (.attributeTooLong 2 256) := by
    decide +kernel
  have hwritten : portRequest.encode .standard = .ok (portWire, portRequest) := by
    decide +kernel
  obtain ⟨hfaults, hrecords, -⟩ :=
    @encode_outcome .standard portRequest _ Dictionary.builtFrom_standard
  have hnone : ∀ cause, ¬ WriteFault .standard portRequest cause := by
    intro cause hfault
    have hsame := (hfaults cause).2 hfault
    rw [hwritten] at hsame
    cases hsame
  obtain ⟨records, wire, kept, hwrites, hencode, hlaid⟩ := hrecords hnone
  rw [hwritten] at hencode
  cases hencode
  exact ⟨((encode_outcome Dictionary.builtFrom_standard).1 _).1 hrefused, hwritten, records,
    hwrites, hlaid⟩

end Radius.Packet
