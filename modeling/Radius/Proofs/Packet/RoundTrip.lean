import Radius.Digest.Md5
import Radius.Proofs.Packet.Layout

/-!
# `Radius.Proofs.Packet.RoundTrip`: reading undoes writing

A packet that is written and read with the same secret and dictionary comes back as it was, with
either reader. Three things about its attributes are needed (`Legible`). Each value has the
kind of its type's codec, since the codecs also write some values of other kinds. No password
ends in NUL, which is the padding. And a hidden password stands only in a packet that carries
its authenticator, because a digest takes the place of the key that the password was hidden with.

`received` is the packet as it comes back: only the authenticator and the raw bytes are new.
`readers_of_wire` says that it does, and `readers_of_encode` spells it out field by field.
-/

set_option autoImplicit false

namespace Radius.Packet

/-- A packet as it comes back from the bytes that it was written as. -/
def received (packet : Packet) (wire : List UInt8) : Packet :=
  { packet with authenticator := Block.ofBytes (wire.drop 4), raw := some wire }

section
variable [Digest]

/-- What a packet needs for its attributes to be read back. -/
structure Legible (dictionary : Dictionary) (packet : Packet) : Prop where
  kinds : ∀ attr ∈ packet.attributes, attr.value.kind = (dictionary.codec attr.type).kind
  unpadded : ∀ attr ∈ packet.attributes, dictionary.codec attr.type = .userPassword →
    ∀ text, attr.value = .text text → text.toList.getLast? ≠ some '\x00'
  keyed : packet.code ∈ Code.stored ∨
    ∀ attr ∈ packet.attributes, dictionary.codec attr.type ≠ .userPassword

variable {dictionary : Dictionary} {packet : Packet} {wire : List UInt8}

/-- An attribute reads from the record that it was written as, under the same key if it is a
hidden password. -/
theorem Writes.reads {attr : Attribute} {record : Record} {q : Packet}
    (hcodec : (dictionary.codec attr.type).Stock)
    (hkind : attr.value.kind = (dictionary.codec attr.type).kind)
    (hunpadded : dictionary.codec attr.type = .userPassword →
      ∀ text, attr.value = .text text → text.toList.getLast? ≠ some '\x00')
    (hkey : dictionary.codec attr.type = .userPassword → packet.SameKey q)
    (h : Writes dictionary packet attr record) : Reads dictionary q record attr := by
  obtain ⟨htype, hvalue⟩ := h
  refine ⟨htype.symm, ?_⟩
  rw [htype, ← hcodec.decode_congr hkey]
  exact hcodec.decode_encode hkind hunpadded (encodeValue_eq_ok_iff.1 hvalue).1

/-- The records of a legible packet hold its attributes, for whoever reads its bytes. -/
theorem reads_of_wire (hstock : ∀ type, (dictionary.codec type).Stock)
    (hlegible : packet.Legible dictionary) (h : packet.wire dictionary = .ok wire) :
    ∃ records, Framed records (wire.drop 20) ∧
      List.Forall₂ (Reads dictionary (ofHeader packet.secret wire)) records
        packet.attributes := by
  -- The key on the reading side is the one that the header carries. It is the key of the writing
  -- side where the header carries the stored authenticator.
  have hkey : ∀ attr ∈ packet.attributes, dictionary.codec attr.type = .userPassword →
      packet.SameKey (ofHeader packet.secret wire) := by
    intro attr hattr hpassword
    rcases hlegible.keyed with hstored | hnone
    · exact ⟨rfl, (ofBytes_drop_four_of_wire hstored h).symm⟩
    · exact absurd hpassword (hnone attr hattr)
  obtain ⟨records, body, authenticator, hwrites, hframed, -, -, hwire⟩ := wire_eq_ok_iff.1 h
  have hbody : wire.drop 20 = body := by
    rw [hwire, drop_assembled]
  have hmembers := (List.forall₂_and_left (p := (· ∈ packet.attributes)) _ _).2
    ⟨fun _ hattr => hattr, hwrites⟩
  rw [hbody]
  refine ⟨records, hframed, (hmembers.imp fun attr record hpair => ?_).flip⟩
  obtain ⟨hattr, hwrite⟩ := hpair
  exact hwrite.reads (hstock _) (hlegible.kinds _ hattr) (hlegible.unpadded _ hattr)
    (hkey _ hattr)

/-- A legible packet is read back from its bytes by either reader. -/
theorem readers_of_wire (hstock : ∀ type, (dictionary.codec type).Stock)
    (hlegible : packet.Legible dictionary) (h : packet.wire dictionary = .ok wire) :
    decode dictionary packet.secret wire = .ok (packet.received wire) ∧
      decodeStrict dictionary packet.secret wire = .ok (packet.received wire) := by
  obtain ⟨hlong, hmost⟩ := length_of_wire h
  have hlength := lengthField_of_wire h
  have hbody : readBody dictionary packet.secret wire = .ok (packet.received wire) := by
    obtain ⟨records, hframed, hreads⟩ := reads_of_wire hstock hlegible h
    rw [readBody_eq hlong, readRecords_eq_ok_iff hstock]
    refine ⟨records, packet.attributes, hframed, hreads, ?_⟩
    rw [ofHeader_of_wire packet.secret h]
    rfl
  have hdecode : decode dictionary packet.secret wire = .ok (packet.received wire) :=
    decode_eq_ok_iff.2 ⟨hlong, by omega, by omega, hbody⟩
  rw [decodeStrict_eq_decode hlength]
  exact ⟨hdecode, hdecode⟩

/-- What a packet is encoded to is read back by either reader as a packet with its code, its
identifier and its attributes, in order and with repetitions. Its authenticator is the one on
the wire, which is the packet's own if the code carries it. -/
theorem readers_of_encode (hbuilt : dictionary.BuiltFrom Codec.Stock)
    (hkinds : ∀ attr ∈ packet.attributes, attr.value.kind = (dictionary.codec attr.type).kind)
    (hunpadded : ∀ attr ∈ packet.attributes, dictionary.codec attr.type = .userPassword →
      ∀ text, attr.value = .text text → text.toList.getLast? ≠ some '\x00')
    (hkeyed : packet.code = .accessRequest ∨ packet.code = .statusServer ∨
      ∀ attr ∈ packet.attributes, dictionary.codec attr.type ≠ .userPassword)
    {kept : Packet} (h : packet.encode dictionary = .ok (wire, kept)) :
    ∃ q, decode dictionary packet.secret wire = .ok q ∧
      decodeStrict dictionary packet.secret wire = .ok q ∧
      q.code = packet.code ∧ q.identifier = packet.identifier ∧
      q.attributes = packet.attributes ∧ q.raw = some wire ∧
      q.authenticator.bytes = (wire.drop 4).take 16 ∧
      (packet.code = .accessRequest ∨ packet.code = .statusServer →
        q.authenticator = packet.authenticator) := by
  obtain ⟨hwire, -⟩ := encode_eq_ok_iff.1 h
  have hlegible : packet.Legible dictionary := by
    refine ⟨hkinds, hunpadded, ?_⟩
    rcases hkeyed with hcode | hcode | hnone
    · exact .inl (by rw [hcode]; decide)
    · exact .inl (by rw [hcode]; decide)
    · exact .inr hnone
  obtain ⟨hdecode, hstrict⟩ := readers_of_wire hbuilt.stock hlegible hwire
  refine ⟨_, hdecode, hstrict, rfl, rfl, rfl, rfl, ?_, ?_⟩
  · have hlong := (length_of_wire hwire).1
    exact Block.bytes_ofBytes_of_le (by rw [List.length_drop]; omega)
  · intro hcode
    have hstored : packet.code ∈ Code.stored := by
      rcases hcode with hcode | hcode <;> rw [hcode] <;> decide
    exact ofBytes_drop_four_of_wire hstored hwire

end

/-- A request with a password of two blocks, an empty value and a repeated type. -/
def sampleRequest : Packet where
  code := .accessRequest
  identifier := 7
  authenticator :=
    ⟨[15, 64, 63, 148, 115, 151, 128, 87, 189, 131, 213, 203, 152, 244, 34, 122], rfl⟩
  secret := [120, 121, 122, 122, 121]
  attributes := [⟨1, .text "nemo"⟩, ⟨2, .text "twenty thousand leagues"⟩, ⟨25, .bytes []⟩,
    ⟨5, .integer 3⟩, ⟨25, .bytes [0]⟩]

/-- The bytes of the request, with the password hidden under MD5. -/
def sampleWire : List UInt8 := [
  1, 7, 0, 71, 15, 64, 63, 148, 115, 151, 128, 87, 189, 131, 213, 203, 152, 244, 34, 122,
  1, 6, 110, 101, 109, 111,
  2, 34, 204, 84, 185, 189, 66, 55, 198, 11, 22, 221, 124, 60, 82, 158, 96, 2, 102, 195, 193,
  181, 216, 53, 247, 233, 149, 82, 12, 4, 4, 254, 227, 16,
  25, 2, 5, 6, 0, 0, 0, 3, 25, 3, 0]

/-- The request comes back from its bytes, with the standard dictionary and MD5. -/
theorem readers_of_encode_sample :
    sampleRequest.encode .standard = .ok (sampleWire, sampleRequest) ∧
      (∀ attr ∈ sampleRequest.attributes,
        attr.value.kind = (Dictionary.standard.codec attr.type).kind) ∧
      ∃ q, decode .standard sampleRequest.secret sampleWire = .ok q ∧
        decodeStrict .standard sampleRequest.secret sampleWire = .ok q ∧
        q.code = .accessRequest ∧ q.identifier = 7 ∧
        q.attributes = sampleRequest.attributes ∧ q.raw = some sampleWire ∧
        q.authenticator.bytes = (sampleWire.drop 4).take 16 ∧
        (sampleRequest.code = .accessRequest ∨ sampleRequest.code = .statusServer →
          q.authenticator = sampleRequest.authenticator) := by
  have hencode : sampleRequest.encode .standard = .ok (sampleWire, sampleRequest) := by
    decide +kernel
  have hkinds : ∀ attr ∈ sampleRequest.attributes,
      attr.value.kind = (Dictionary.standard.codec attr.type).kind := by
    decide +kernel
  have hlast : ∀ attr ∈ sampleRequest.attributes,
      attr.value.text?.bind (·.toList.getLast?) ≠ some '\x00' := by
    decide +kernel
  refine ⟨hencode, hkinds,
    readers_of_encode Dictionary.builtFrom_standard hkinds ?_ (.inl rfl) hencode⟩
  intro attr hattr _ text htext
  have hne := hlast attr hattr
  rw [htext] at hne
  exact hne

end Radius.Packet
