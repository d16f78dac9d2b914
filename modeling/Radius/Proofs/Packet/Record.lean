import Mathlib.Data.List.Forall2
import Radius.Packet.Wire
import Radius.Proofs.Codec

/-!
# `Radius.Proofs.Packet.Record`: attributes as records

After its header a packet is a row of records: a type, a length byte that counts both and the
value, and the value. `Framed` says that some bytes are such a row, without reading or
writing anything. The loop of the reader and the loop of the writer are then one statement
each, over a whole row:

* `Framed.unique`: bytes are a row of records in one way at most. The length byte is never
  truncated, because a value has `maxValueLength` bytes at most.
* `readRecords_eq_ok_iff`: reading succeeds exactly on rows of records, and it reads each record
  by itself with the key of the packet, although the codecs are handed the packet as it grows.
* `recordsOf_eq_ok_iff`: writing gives a row of records, one for each attribute.
-/

set_option autoImplicit false

namespace Radius.Packet

/-- A record: a type and the bytes of a value. -/
structure Record where
  type : UInt8
  value : List UInt8
  deriving DecidableEq, Repr

/-- The bytes of a record. -/
def Record.bytes (record : Record) : List UInt8 :=
  record.type :: UInt8.ofNat (record.value.length + 2) :: record.value

/-- The bytes are these records, one after the other, none of them longer than its length byte
can say. -/
structure Framed (records : List Record) (bytes : List UInt8) : Prop where
  fits : ∀ record ∈ records, record.value.length ≤ maxValueLength
  spells : records.flatMap Record.bytes = bytes

/-! ### Rows of records -/

/-- A record is two bytes longer than its value. -/
theorem Record.length_bytes (record : Record) :
    record.bytes.length = record.value.length + 2 := rfl

/-- The length byte of a record that fits says its length. -/
theorem Record.toNat_lengthByte {record : Record} (h : record.value.length ≤ maxValueLength) :
    (UInt8.ofNat (record.value.length + 2)).toNat = record.value.length + 2 := by
  rw [maxValueLength] at h
  exact UInt8.toNat_ofNat_of_lt' (show record.value.length + 2 < 256 by omega)

/-- What stands at a length byte that fits is a record with this length byte, and a rest. -/
theorem Record.bytes_of_length (type : UInt8) {length : UInt8} {rest : List UInt8}
    (hinside : ¬ (length.toNat < 2 ∨ rest.length + 2 < length.toNat)) :
    (rest.take (length.toNat - 2)).length ≤ maxValueLength ∧
      type :: length :: rest
        = Record.bytes ⟨type, rest.take (length.toNat - 2)⟩ ++ rest.drop (length.toNat - 2) := by
  rw [not_or] at hinside
  have hbyte := length.toNat_lt
  have htaken : (rest.take (length.toNat - 2)).length = length.toNat - 2 := by
    rw [List.length_take]
    omega
  have hlength : UInt8.ofNat (length.toNat - 2 + 2) = length := by
    rw [Nat.sub_add_cancel (by omega), UInt8.ofNat_toNat]
  constructor
  · rw [htaken, maxValueLength]
    omega
  · rw [Record.bytes, htaken, hlength, List.cons_append, List.cons_append, List.take_append_drop]

/-- No records spell no bytes. -/
theorem framed_nil_iff {bytes : List UInt8} : Framed [] bytes ↔ bytes = [] :=
  ⟨fun h => h.spells.symm, fun h => ⟨by simp, h.symm⟩⟩

/-- A row of records is a record that fits, and a row after it. -/
theorem framed_cons_iff {record : Record} {records : List Record} {bytes : List UInt8} :
    Framed (record :: records) bytes ↔
      record.value.length ≤ maxValueLength ∧
        ∃ rest, bytes = record.bytes ++ rest ∧ Framed records rest := by
  constructor
  · rintro ⟨hfits, hspells⟩
    refine ⟨hfits record (by simp), records.flatMap Record.bytes, ?_, ?_, rfl⟩
    · rw [← hspells, List.flatMap_cons]
    · exact fun other hother => hfits other (by simp [hother])
  · rintro ⟨hfit, rest, rfl, hfits, hspells⟩
    refine ⟨?_, ?_⟩
    · intro other hother
      rcases List.mem_cons.mp hother with rfl | hother
      · exact hfit
      · exact hfits other hother
    · rw [List.flatMap_cons, hspells]

/-- A record at the front of some bytes is fixed by them, and so is what follows it. -/
theorem Record.eq_of_append_eq {record other : Record} {rest others : List UInt8}
    (hrecord : record.value.length ≤ maxValueLength)
    (hother : other.value.length ≤ maxValueLength)
    (h : record.bytes ++ rest = other.bytes ++ others) : record = other ∧ rest = others := by
  obtain ⟨type, value⟩ := record
  obtain ⟨type', value'⟩ := other
  simp only [Record.bytes, List.cons_append, List.cons.injEq] at h
  obtain ⟨rfl, hbyte, htail⟩ := h
  have hlength : value.length = value'.length := by
    -- The length bytes are the same, and neither is truncated.
    have hfirst : (UInt8.ofNat (value.length + 2)).toNat = value.length + 2 :=
      Record.toNat_lengthByte hrecord
    have hsecond : (UInt8.ofNat (value'.length + 2)).toNat = value'.length + 2 :=
      Record.toNat_lengthByte hother
    rw [hbyte, hsecond] at hfirst
    omega
  obtain ⟨rfl, rfl⟩ := List.append_inj htail hlength
  exact ⟨rfl, rfl⟩

/-- Bytes are a row of records in one way at most. -/
theorem Framed.unique {records others : List Record} {bytes : List UInt8}
    (h : Framed records bytes) (h' : Framed others bytes) : records = others := by
  induction records generalizing others bytes with
  | nil =>
    cases others with
    | nil => rfl
    | cons other others =>
      obtain ⟨-, rest, hrest, -⟩ := framed_cons_iff.1 h'
      rw [framed_nil_iff.1 h] at hrest
      cases hrest
  | cons record records ih =>
    obtain ⟨hfit, rest, rfl, hrest⟩ := framed_cons_iff.1 h
    cases others with
    | nil => cases framed_nil_iff.1 h'
    | cons other others =>
      obtain ⟨hfit', rest', heq, hrest'⟩ := framed_cons_iff.1 h'
      obtain ⟨rfl, rfl⟩ := Record.eq_of_append_eq hfit hfit' heq
      rw [ih hrest hrest']

/-! ### Reading a row -/

/-- A record reads as an attribute, with the key of a packet. -/
def Reads (dictionary : Dictionary) (key : Packet) (record : Record) (attr : Attribute) : Prop :=
  attr.type = record.type ∧
    (dictionary.codec record.type).decode key record.value = .ok attr.value

section
variable {dictionary : Dictionary} {packet q : Packet} {bytes : List UInt8}

/-- One round of the reader, at a record that fits. -/
theorem readRecords_bytes_append {record : Record} (hfit : record.value.length ≤ maxValueLength)
    (rest : List UInt8) :
    readRecords dictionary packet (record.bytes ++ rest)
      = (((dictionary.codec record.type).decode packet record.value).mapError .codec).bind
          fun value => readRecords dictionary (packet.append ⟨record.type, value⟩) rest := by
  have hlength := Record.toNat_lengthByte hfit
  -- The length byte counts itself and the type, and does not reach past the record.
  have hinside : ¬ (record.value.length + 2 < 2 ∨
      (record.value ++ rest).length + 2 < record.value.length + 2) := by
    rw [List.length_append]
    omega
  rw [Record.bytes, List.cons_append, List.cons_append, readRecords, hlength, if_neg hinside,
    Nat.add_sub_cancel, List.take_left, List.drop_left]
  cases (dictionary.codec record.type).decode packet record.value with
  | error cause => rfl
  | ok value => rfl

/-- The reader goes on after a record that its codec reads. -/
theorem readRecords_append {record : Record} {value : Value}
    (hfit : record.value.length ≤ maxValueLength)
    (hvalue : (dictionary.codec record.type).decode packet record.value = .ok value)
    (rest : List UInt8) :
    readRecords dictionary packet (record.bytes ++ rest)
      = readRecords dictionary (packet.append ⟨record.type, value⟩) rest := by
  rw [readRecords_bytes_append hfit, hvalue]
  rfl

/-- The records add attributes and change nothing else, whatever the codecs make of them. -/
theorem exists_appendAll_of_readRecords (h : readRecords dictionary packet bytes = .ok q) :
    ∃ attributes, q = packet.appendAll attributes := by
  -- By the rounds of the reader. Each adds one attribute at the end.
  fun_induction readRecords dictionary packet bytes with
  | case1 packet =>
    cases h
    exact ⟨[], by simp [appendAll]⟩
  | case2 => cases h
  | case3 => cases h
  | case4 => cases h
  | case5 packet type length rest hinside value hvalue ih =>
    obtain ⟨attributes, rfl⟩ := ih h
    exact ⟨⟨type, value⟩ :: attributes, by simp [append, appendAll]⟩

variable [Digest]

/-- A record reads alike with any two packets that key alike. -/
theorem Reads.congr {record : Record} {attr : Attribute}
    (hcodec : (dictionary.codec record.type).Stock)
    (hkey : dictionary.codec record.type = .userPassword → packet.SameKey q)
    (h : Reads dictionary packet record attr) : Reads dictionary q record attr := by
  refine ⟨h.1, ?_⟩
  rw [← hcodec.decode_congr hkey]
  exact h.2

/-- The packet grows while its records are read, and keeps its key. -/
theorem reads_append_iff (hstock : ∀ type, (dictionary.codec type).Stock) {before : Attribute}
    {record : Record} {attr : Attribute} :
    Reads dictionary (packet.append before) record attr ↔ Reads dictionary packet record attr := by
  have hgrown : packet.SameKey (packet.append before) := ⟨rfl, rfl⟩
  have hshrunk : (packet.append before).SameKey packet := ⟨rfl, rfl⟩
  exact ⟨Reads.congr (hstock _) fun _ => hshrunk, Reads.congr (hstock _) fun _ => hgrown⟩

/-- Reading succeeds exactly on rows of records, and reads each record by itself. -/
theorem readRecords_eq_ok_iff (hstock : ∀ type, (dictionary.codec type).Stock) :
    readRecords dictionary packet bytes = .ok q ↔
      ∃ records attributes, Framed records bytes ∧
        List.Forall₂ (Reads dictionary packet) records attributes ∧
        q = packet.appendAll attributes := by
  constructor
  · intro h
    -- By the rounds of the reader. The packet grows from one to the next.
    fun_induction readRecords dictionary packet bytes with
    | case1 packet =>
      cases h
      exact ⟨[], [], framed_nil_iff.2 rfl, .nil, by simp [appendAll]⟩
    | case2 => cases h
    | case3 => cases h
    | case4 => cases h
    | case5 packet type length rest hinside value hvalue ih =>
      obtain ⟨records, attributes, hframed, hreads, rfl⟩ := ih h
      obtain ⟨hfit, hrecord⟩ := Record.bytes_of_length type hinside
      refine ⟨⟨type, rest.take (length.toNat - 2)⟩ :: records, ⟨type, value⟩ :: attributes,
        framed_cons_iff.2 ⟨hfit, _, hrecord, hframed⟩, .cons ⟨rfl, hvalue⟩ ?_, ?_⟩
      · exact hreads.imp fun _ _ => (reads_append_iff hstock).1
      · simp [append, appendAll]
  · rintro ⟨records, attributes, hframed, hreads, rfl⟩
    -- By the records: each is one round.
    induction records generalizing packet bytes attributes with
    | nil =>
      rw [framed_nil_iff.1 hframed, List.forall₂_nil_left_iff.1 hreads, readRecords]
      simp [appendAll]
    | cons record records ih =>
      obtain ⟨hfit, rest, rfl, hrest⟩ := framed_cons_iff.1 hframed
      obtain ⟨⟨type, value⟩, others, ⟨htype, hvalue⟩, hothers, rfl⟩ :=
        List.forall₂_cons_left_iff.1 hreads
      obtain rfl : type = record.type := htype
      have htail : List.Forall₂ (Reads dictionary (packet.append ⟨record.type, value⟩))
          records others :=
        hothers.imp fun _ _ => (reads_append_iff hstock).2
      rw [readRecords_append hfit hvalue, ih others hrest htail]
      simp [append, appendAll]

end

/-! ### Writing a row -/

section
variable {dictionary : Dictionary} {packet : Packet}

/-- An attribute is written as a record, with the key of a packet. -/
def Writes (dictionary : Dictionary) (key : Packet) (attr : Attribute) (record : Record) : Prop :=
  record.type = attr.type ∧ encodeValue dictionary key attr = .ok record.value

/-- The bytes of a value are kept if they fit into a record. -/
theorem encodeValue_eq_ok_iff {attr : Attribute} {value : List UInt8} :
    encodeValue dictionary packet attr = .ok value ↔
      (dictionary.codec attr.type).encode packet attr.value = .ok value ∧
        value.length ≤ maxValueLength := by
  unfold encodeValue
  cases (dictionary.codec attr.type).encode packet attr.value with
  | error cause => simp
  | ok bytes =>
    show (if maxValueLength < bytes.length then
      Except.error (PacketError.attributeTooLong attr.type bytes.length) else .ok bytes) = _ ↔ _
    rw [Except.ok.injEq]
    split
    next hlong =>
      constructor
      · intro h
        cases h
      · rintro ⟨rfl, h⟩
        exact absurd hlong (Nat.not_lt.mpr h)
    next hfit =>
      constructor
      · intro h
        cases h
        exact ⟨rfl, Nat.not_lt.mp hfit⟩
      · rintro ⟨rfl, -⟩
        rfl

/-- What attributes are written as is a row of records. -/
theorem framed_of_writes {attributes : List Attribute} {records : List Record}
    (h : List.Forall₂ (Writes dictionary packet) attributes records) :
    Framed records (records.flatMap Record.bytes) := by
  refine ⟨?_, rfl⟩
  induction h with
  | nil => simp
  | cons hwrite hwrites ih =>
    intro record hrecord
    rcases List.mem_cons.mp hrecord with rfl | hrecord
    · exact (encodeValue_eq_ok_iff.1 hwrite.2).2
    · exact ih record hrecord

/-- Writing gives a row of records, one for each attribute. -/
theorem recordsOf_eq_ok_iff {attributes : List Attribute} {bytes : List UInt8} :
    recordsOf dictionary packet attributes = .ok bytes ↔
      ∃ records, List.Forall₂ (Writes dictionary packet) attributes records ∧
        Framed records bytes := by
  -- Both sides take the attributes one by one: the first record is written before the others.
  induction attributes generalizing bytes with
  | nil =>
    constructor
    · intro h
      cases h
      exact ⟨[], .nil, framed_nil_iff.2 rfl⟩
    · rintro ⟨records, hwrites, hframed⟩
      rw [List.forall₂_nil_left_iff] at hwrites
      rw [hwrites, framed_nil_iff] at hframed
      rw [hframed, recordsOf]
  | cons attr attributes ih =>
    constructor
    · intro h
      rw [recordsOf] at h
      split at h
      next => cases h
      next value hvalue =>
        split at h
        next => cases h
        next tail htail =>
          cases h
          obtain ⟨records, hwrites, hframed⟩ := ih.1 htail
          exact ⟨⟨attr.type, value⟩ :: records, .cons ⟨rfl, hvalue⟩ hwrites,
            framed_cons_iff.2 ⟨(encodeValue_eq_ok_iff.1 hvalue).2, tail, rfl, hframed⟩⟩
    · rintro ⟨records, hwrites, hframed⟩
      obtain ⟨⟨type, value⟩, others, ⟨htype, hvalue⟩, hothers, rfl⟩ :=
        List.forall₂_cons_left_iff.1 hwrites
      obtain rfl : type = attr.type := htype
      obtain ⟨-, rest, rfl, hrest⟩ := framed_cons_iff.1 hframed
      rw [recordsOf, hvalue, ih.2 ⟨others, hothers, hrest⟩]
      rfl

end

end Radius.Packet
