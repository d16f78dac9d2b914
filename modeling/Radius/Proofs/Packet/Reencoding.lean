import Radius.Digest.Md5
import Radius.Proofs.Packet.Layout

/-!
# `Radius.Proofs.Packet.Reencoding`: writing what was read

A packet that was read can always be written again, as far as its records go. Each record is
written as a record of the same type that is no longer (`Renews`), so nothing that fitted stops
fitting. It is the same record exactly if it is canonical. All records are, but for hidden
passwords with more blocks of padding than they need.

* `exists_records_of_readBody`: the records of a packet that was read, over the whole row. It is
  stated for `readBody`, which both readers come down to.
* `encode_of_decodeStrict`: what `encode` makes of a packet that `decodeStrict` gave, code by
  code. The only fault that is left is a code without a form on the wire.
-/

set_option autoImplicit false

namespace Radius.Packet

section
variable [Digest] {dictionary : Dictionary} {key : Packet}

/-! ### One record, and a row of them -/

/-- A record and the one that its attribute is written as again. -/
structure Renews (dictionary : Dictionary) (key : Packet) (record again : Record) : Prop where
  shrinks : again.value.length ≤ record.value.length
  same_iff : again = record ↔ (dictionary.codec record.type).Canonical key record.value

/-- An attribute that was read from a record can be written again, in no more bytes. -/
theorem Reads.exists_writes {record : Record} {attr : Attribute}
    (hcodec : (dictionary.codec record.type).Stock)
    (hfit : record.value.length ≤ maxValueLength) (h : Reads dictionary key record attr) :
    ∃ again, Writes dictionary key attr again ∧ Renews dictionary key record again := by
  obtain ⟨htype, hvalue⟩ := h
  obtain ⟨value, hencode, hshrinks, hsame⟩ := hcodec.exists_encode_of_decode hvalue
  refine ⟨⟨record.type, value⟩, ⟨htype.symm, ?_⟩, hshrinks, ?_⟩
  · rw [encodeValue_eq_ok_iff, htype]
    exact ⟨hencode, Nat.le_trans hshrinks hfit⟩
  · rw [← hsame]
    exact ⟨fun h => congrArg Record.value h, fun h => by rw [h]⟩

/-- The same for a row of records. -/
theorem exists_writes_of_reads (hstock : ∀ type, (dictionary.codec type).Stock)
    {records : List Record} {attributes : List Attribute}
    (hfits : ∀ record ∈ records, record.value.length ≤ maxValueLength)
    (h : List.Forall₂ (Reads dictionary key) records attributes) :
    ∃ again, List.Forall₂ (Writes dictionary key) attributes again ∧
      List.Forall₂ (Renews dictionary key) records again := by
  induction h with
  | nil => exact ⟨[], .nil, .nil⟩
  | @cons record attr records attributes hread hreads ih =>
    obtain ⟨again, hwrite, hrenews⟩ := hread.exists_writes (hstock _) (hfits _ (by simp))
    obtain ⟨others, hwrites, hothers⟩ := ih fun other hother => hfits other (by simp [hother])
    exact ⟨again :: others, .cons hwrite hwrites, .cons hrenews hothers⟩

/-- A row that is written again gets no longer. -/
theorem length_flatMap_le_of_renews {records again : List Record}
    (h : List.Forall₂ (Renews dictionary key) records again) :
    (again.flatMap Record.bytes).length ≤ (records.flatMap Record.bytes).length := by
  induction h with
  | nil => exact le_rfl
  | cons hrenews hothers ih =>
    rw [List.flatMap_cons, List.flatMap_cons, List.length_append, List.length_append,
      Record.length_bytes, Record.length_bytes]
    have hshrinks := hrenews.shrinks
    omega

/-- A row stays as it was exactly if all its records are canonical. -/
theorem eq_iff_of_renews {records again : List Record}
    (h : List.Forall₂ (Renews dictionary key) records again) :
    again = records ↔
      ∀ record ∈ records, (dictionary.codec record.type).Canonical key record.value := by
  induction h with
  | nil => simp
  | cons hrenews hothers ih =>
    rw [List.cons.injEq, hrenews.same_iff, ih, List.forall_mem_cons]

/-! ### A packet that was read -/

variable {secret data : List UInt8} {q : Packet}

/-- The records of a packet that was read, and what they are written as again. -/
theorem exists_records_of_readBody (hstock : ∀ type, (dictionary.codec type).Stock)
    (hlong : 20 ≤ data.length) (h : readBody dictionary secret data = .ok q) :
    ∃ records body, Framed records (data.drop 20) ∧ q.records dictionary = .ok body ∧
      body.length ≤ (data.drop 20).length ∧
      (body = data.drop 20 ↔
        ∀ record ∈ records, (dictionary.codec record.type).Canonical q record.value) := by
  obtain ⟨records, hframed, hreads⟩ := reads_of_readBody hstock hlong h
  obtain ⟨again, hwrites, hrenews⟩ := exists_writes_of_reads hstock hframed.fits hreads
  have hagain := framed_of_writes hwrites
  refine ⟨records, again.flatMap Record.bytes, hframed,
    recordsOf_eq_ok_iff.2 ⟨again, hwrites, hagain⟩, ?_, ?_⟩
  · rw [← hframed.spells]
    exact length_flatMap_le_of_renews hrenews
  · rw [← eq_iff_of_renews hrenews]
    constructor
    · intro heq
      rw [heq] at hagain
      exact hagain.unique hframed
    · rintro rfl
      exact hframed.spells

/-- A packet that carries its authenticator is written as the datagram that it was read from,
with the length that this has, exactly if its records stay as they were. -/
theorem encode_iff_of_readBody (hlong : 20 ≤ data.length)
    (h : readBody dictionary secret data = .ok q)
    {body : List UInt8} (hrecords : q.records dictionary = .ok body)
    (hmost : 20 + body.length ≤ maxLength) (hstored : q.code ∈ Code.stored) :
    (∃ kept, q.encode dictionary = .ok (withLength data, kept)) ↔ body = data.drop 20 := by
  rw [encode_of_mem_stored hrecords hmost hstored, ← assembled_of_readBody hlong h]
  constructor
  · rintro ⟨kept, hkept⟩
    rw [Except.ok.injEq, Prod.mk.injEq] at hkept
    rw [← drop_assembled q q.authenticator body, hkept.1, drop_assembled]
  · rintro rfl
    exact ⟨q, rfl⟩

/-- A packet that carries a digest is written with the header and the records of the datagram that
it was read from, if its records stay as they were. -/
theorem exists_encode_of_readBody (hlong : 20 ≤ data.length)
    (h : readBody dictionary secret data = .ok q)
    (hrecords : q.records dictionary = .ok (data.drop 20)) (hmost : data.length ≤ maxLength)
    (hcomputed : q.code ∈ Code.computed) :
    ∃ wire kept, q.encode dictionary = .ok (wire, kept) ∧ wire.length = data.length ∧
      wire.take 4 = (withLength data).take 4 ∧ wire.drop 20 = data.drop 20 := by
  have hlength : 20 + (data.drop 20).length = data.length := by
    rw [List.length_drop]
    omega
  obtain ⟨authenticator, kept, hencode⟩ :=
    exists_encode_of_mem_computed hrecords (hlength.trans_le hmost) hcomputed
  refine ⟨_, kept, hencode, ?_, ?_, drop_assembled _ _ _⟩
  · rw [length_assembled, hlength]
  · rw [← assembled_of_readBody hlong h, take_four_assembled, take_four_assembled]

/-- What `encode` makes of a packet that `decodeStrict` accepted, for the part `data.take length`
of the datagram that it read, and the row of records in it.

A packet that carries its authenticator is written as that part again, exactly if every record is
canonical. A packet that carries a digest keeps its header and its records then, and may change
the digest. A packet with any other code is refused for its code. Nothing else is ever refused. -/
theorem encode_of_decodeStrict (hbuilt : dictionary.BuiltFrom Codec.Stock)
    (h : decodeStrict dictionary secret data = .ok q) :
    ∃ records, Framed records ((data.take (lengthField data)).drop 20) ∧
      (q.code = .accessRequest ∨ q.code = .statusServer →
        ((∃ kept, q.encode dictionary = .ok (data.take (lengthField data), kept)) ↔
          ∀ record ∈ records, (dictionary.codec record.type).Canonical q record.value)) ∧
      (q.code ∈ Code.computed →
        (∀ record ∈ records, (dictionary.codec record.type).Canonical q record.value) →
        ∃ wire kept, q.encode dictionary = .ok (wire, kept) ∧
          wire.length = lengthField data ∧ wire.take 4 = data.take 4 ∧
          wire.drop 20 = (data.take (lengthField data)).drop 20) ∧
      (q.code ∉ Code.stored → q.code ∉ Code.computed →
        q.encode dictionary = .error (.unknownCode (data.getD 0 0))) ∧
      (∀ cause, q.encode dictionary = .error cause →
        cause = .unknownCode (data.getD 0 0) ∧ q.code ∉ Code.stored ∧ q.code ∉ Code.computed) := by
  obtain ⟨hleast, hmost, hwhole, hbody⟩ := decodeStrict_eq_ok_iff.1 h
  obtain ⟨hlength, hfield⟩ := lengthField_take_lengthField hleast hwhole
  have hbyte : (data.take (lengthField data)).getD 0 0 = data.getD 0 0 := getD_take (by omega)
  have hfour : (data.take (lengthField data)).take 4 = data.take 4 := by
    rw [List.take_take, Nat.min_eq_left (by omega)]
  -- What follows is about the part that was read, which has the length that it declares.
  generalize data.take (lengthField data) = part at *
  have hlong : 20 ≤ part.length := by omega
  have hpart : withLength part = part := withLength_eq_self hlong (by omega)
  obtain ⟨records, body, hframed, hrecords, hshrinks, hsame⟩ :=
    exists_records_of_readBody hbuilt.stock hlong hbody
  have hcode : q.code.toByte = data.getD 0 0 := by
    rw [(header_of_readBody hlong hbody).1, Code.toByte_ofByte, hbyte]
  have hfits : 20 + body.length ≤ maxLength := by
    rw [List.length_drop] at hshrinks
    omega
  refine ⟨records, hframed, ?_, ?_, ?_, ?_⟩
  · intro hstored
    have hmem : q.code ∈ Code.stored := by
      rcases hstored with hcode | hcode <;> rw [hcode] <;> decide
    have hencode := encode_iff_of_readBody hlong hbody hrecords hfits hmem
    rw [hpart] at hencode
    exact hencode.trans hsame
  · intro hcomputed hcanonical
    rw [hsame.2 hcanonical] at hrecords
    have hencode :=
      exists_encode_of_readBody hlong hbody hrecords (by omega) hcomputed
    rw [hpart, hfour, hlength] at hencode
    exact hencode
  · intro hstored hcomputed
    rw [encode_of_unsealable hrecords hfits
      (Code.sealing_eq_unsealable_iff.2 ⟨hstored, hcomputed⟩), hcode]
  · intro cause hcause
    rw [← hcode]
    exact eq_unknownCode_of_encode hrecords hfits hcause

end

/-- A datagram with two bytes after its declared end. Its hidden password fills two blocks, of
which the password behind it needs one. -/
def paddedDatagram : List UInt8 := [
  1, 7, 0, 54, 15, 64, 63, 148, 115, 151, 128, 87, 189, 131, 213, 203, 152, 244, 34, 122,
  2, 34, 200, 84, 220, 211, 54, 78, 230, 127, 126, 178, 9, 79, 51, 240, 4, 34, 80, 174, 209, 33,
  129, 174, 235, 233, 129, 141, 231, 135, 124, 54, 78, 112,
  0, 0]

/-- The packet that the datagram holds. -/
def paddedRequest : Packet where
  code := .accessRequest
  identifier := 7
  authenticator := Block.ofBytes (paddedDatagram.drop 4)
  secret := [120, 121, 122, 122, 121]
  raw := some (paddedDatagram.take 54)
  attributes := [⟨2, .text "pw"⟩]

/-- The datagram is accepted, and the packet is not written as it again but where its hidden
password is canonical. -/
theorem encode_of_decodeStrict_padded :
    decodeStrict .standard paddedRequest.secret paddedDatagram = .ok paddedRequest ∧
      ∃ records, Framed records ((paddedDatagram.take (lengthField paddedDatagram)).drop 20) ∧
        ((∃ kept, paddedRequest.encode .standard
            = .ok (paddedDatagram.take (lengthField paddedDatagram), kept)) ↔
          ∀ record ∈ records,
            (Dictionary.standard.codec record.type).Canonical paddedRequest record.value) := by
  have haccepted :
      decodeStrict .standard paddedRequest.secret paddedDatagram = .ok paddedRequest := by
    decide +kernel
  obtain ⟨records, hframed, hstored, -, -, -⟩ :=
    encode_of_decodeStrict Dictionary.builtFrom_standard haccepted
  exact ⟨haccepted, records, hframed, hstored (.inl rfl)⟩

end Radius.Packet
