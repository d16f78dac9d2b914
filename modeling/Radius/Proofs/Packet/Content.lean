import Radius.Digest.Md5
import Radius.Proofs.Packet.Seed

/-!
# `Radius.Proofs.Packet.Content`: what a digest vouches for

The digest of a packet is taken of its header, a seed, its records and a secret, one after the other
(`digestInput`). The records and the secret have lengths of their own, and nothing stands between
them. All the same, the bytes can be cut in one way only. A header has four bytes and a seed has
sixteen, the header declares how many bytes the records have, and the secret is what is left.

`Content` is what the header and the records say, with the bounds that a written packet keeps to:
none of the lengths is truncated on its way into one or two bytes.

* `Content.header_inj`: the header tells the code, the identifier and the length of the records.
* `Content.message_inj`: the bytes tell the content, the seed and the secret.
* `exists_content`: a packet that can be encoded and carries a digest has a content, and its digest
  is that of a message.

`digestInput_unambiguous` says so of any two packets, and what it means for their authenticators.
-/

set_option autoImplicit false

namespace Radius.Packet

/-- The bytes that the digest of a packet is taken of, if the packet is written as `wire`. -/
def digestInput (wire : List UInt8) (seed : Block) (secret : List UInt8) : List UInt8 :=
  wire.take 4 ++ seed.bytes ++ wire.drop 20 ++ secret

/-- Different bytes with the same digest. -/
def Collide [Digest] (bytes other : List UInt8) : Prop :=
  bytes ≠ other ∧ Digest.hash bytes = Digest.hash other

/-- What a digest vouches for, together with a seed and a secret. -/
@[ext] structure Content where
  code : Code
  identifier : UInt8
  records : List Record
  /-- Packets with the code carry a digest. -/
  carries : code ∈ Code.computed
  /-- The length byte of each record can say its length. -/
  fits : ∀ record ∈ records, record.value.length ≤ maxValueLength
  /-- The header can declare the length of the whole. -/
  most : 20 + (records.flatMap Record.bytes).length ≤ maxLength

namespace Content

/-- The bytes of the records. -/
def body (content : Content) : List UInt8 :=
  content.records.flatMap Record.bytes

/-- The bytes of the header. -/
def header (content : Content) : List UInt8 :=
  content.code.toByte :: content.identifier :: bigEndian 2 (20 + content.body.length)

/-- The bytes that the digest is taken of. -/
def message (content : Content) (seed : Block) (secret : List UInt8) : List UInt8 :=
  content.header ++ seed.bytes ++ content.body ++ secret

variable {content other : Content}

/-- The header is what stands before the authenticator. -/
theorem length_header (content : Content) : content.header.length = 4 := rfl

/-- No packet is longer than a packet can be. -/
theorem length_le (content : Content) : 20 + content.body.length ≤ maxLength :=
  content.most

/-- The body is its records, one after the other. -/
theorem framed_body (content : Content) : Framed content.records content.body :=
  ⟨content.fits, rfl⟩

/-- The header tells the code, the identifier and the length of the records. -/
theorem header_inj (h : content.header = other.header) :
    content.code = other.code ∧ content.identifier = other.identifier ∧
      content.body.length = other.body.length := by
  rw [header, header, List.cons.injEq, List.cons.injEq] at h
  obtain ⟨hcode, hidentifier, hlength⟩ := h
  have hvalue : 20 + content.body.length = 20 + other.body.length := by
    rw [← bigEndianValue_length content.length_le, hlength, bigEndianValue_length other.length_le]
  exact ⟨Code.eq_of_toByte_eq content.carries other.carries hcode, hidentifier,
    Nat.add_left_cancel hvalue⟩

/-- The bytes of the records tell the records. -/
theorem records_eq_of_body_eq (h : content.body = other.body) :
    content.records = other.records := by
  have hother := other.framed_body
  rw [← h] at hother
  exact content.framed_body.unique hother

/-- The bytes that a digest is taken of tell the content, the seed and the secret. -/
theorem message_inj {seed seed' : Block} {secret secret' : List UInt8}
    (h : content.message seed secret = other.message seed' secret') :
    content = other ∧ seed = seed' ∧ secret = secret' := by
  simp only [message, List.append_assoc] at h
  -- The header and the seed have fixed lengths.
  have hfour : content.header.length = other.header.length := by
    rw [length_header, length_header]
  obtain ⟨hheader, h⟩ := List.append_inj h hfour
  have hsixteen : seed.bytes.length = seed'.bytes.length := by
    rw [seed.length_bytes, seed'.length_bytes]
  obtain ⟨hseed, h⟩ := List.append_inj h hsixteen
  -- The header says where the records end and the secret starts.
  obtain ⟨hcode, hidentifier, hlength⟩ := header_inj hheader
  obtain ⟨hbody, hsecret⟩ := List.append_inj h hlength
  exact ⟨Content.ext hcode hidentifier (records_eq_of_body_eq hbody), Block.ext hseed, hsecret⟩

/-- Different messages with the same digest are a collision. -/
theorem eq_or_collide [Digest] {seed seed' : Block} {secret secret' : List UInt8}
    (h : Digest.hash (content.message seed secret) = Digest.hash (other.message seed' secret')) :
    (content = other ∧ seed = seed' ∧ secret = secret') ∨
      Collide (content.message seed secret) (other.message seed' secret') := by
  by_cases hsame : content.message seed secret = other.message seed' secret'
  · exact .inl (message_inj hsame)
  · exact .inr ⟨hsame, h⟩

end Content

section
variable [Digest] {dictionary : Dictionary} {packet : Packet} {wire : List UInt8}

/-- The content is that of a packet. -/
structure HasContent (dictionary : Dictionary) (packet : Packet) (content : Content) : Prop where
  code : content.code = packet.code
  identifier : content.identifier = packet.identifier
  writes : List.Forall₂ (Writes dictionary packet) packet.attributes content.records

/-- A packet that can be written and carries a digest has a content. Its digest is that of a
message, whatever the seed and the secret are. -/
theorem exists_content (hcode : packet.code ∈ Code.computed)
    (h : packet.wire dictionary = .ok wire) :
    ∃ content, HasContent dictionary packet content ∧
      ∀ seed secret, digestInput wire seed secret = content.message seed secret := by
  obtain ⟨records, body, authenticator, hwrites, hframed, hmost, -, rfl⟩ := wire_eq_ok_iff.1 h
  obtain ⟨hfits, rfl⟩ := hframed
  refine ⟨⟨packet.code, packet.identifier, records, hcode, hfits, hmost⟩, ⟨rfl, rfl, hwrites⟩, ?_⟩
  intro seed secret
  rw [digestInput, take_four_assembled, drop_assembled]
  rfl

/-- The authenticator on the wire is the digest of the bytes, with the seed and the secret of the
packet. -/
theorem slice?_of_mem_computed (hcode : packet.code ∈ Code.computed)
    (h : packet.wire dictionary = .ok wire) :
    slice? wire 4 20
      = some (Digest.hash (digestInput wire packet.seed packet.secret)).bytes := by
  rw [slice?_authenticator h]
  obtain ⟨records, body, authenticator, -, -, -, hfield, rfl⟩ := wire_eq_ok_iff.1 h
  rw [authenticatorField_of_mem_computed hcode, Except.ok.injEq] at hfield
  rw [digestInput, ofBytes_drop_four_assembled, take_four_assembled, drop_assembled, ← hfield,
    sealed]

/-- The bytes that a digest is taken of leave no doubt about what it vouches for. Take any two
packets that carry a digest and can be encoded, with any dictionaries.

* If the bytes are the same with some seeds and secrets, then the packets have the same code, the
  same identifier and the same records, and the seeds and the secrets are the same.
* The authenticators on the wire are the digests of such bytes, with the seeds and the secrets of
  the packets.
* So packets with the same authenticator on the wire agree in all of this, or the digest collides
  there. -/
theorem digestInput_unambiguous {p q : Packet} {dictionary others : Dictionary}
    {wire bytes : List UInt8} {kept left : Packet}
    (hp : p.code ∈ Code.computed) (hwire : p.encode dictionary = .ok (wire, kept))
    (hq : q.code ∈ Code.computed) (hbytes : q.encode others = .ok (bytes, left)) :
    ∃ records rows,
      List.Forall₂ (Writes dictionary p) p.attributes records ∧
      List.Forall₂ (Writes others q) q.attributes rows ∧
      (∀ seed seed' secret secret',
        digestInput wire seed secret = digestInput bytes seed' secret' →
          p.code = q.code ∧ p.identifier = q.identifier ∧ seed = seed' ∧ secret = secret' ∧
            records = rows) ∧
      slice? wire 4 20 = some (Digest.hash (digestInput wire p.seed p.secret)).bytes ∧
      slice? bytes 4 20 = some (Digest.hash (digestInput bytes q.seed q.secret)).bytes ∧
      (slice? wire 4 20 = slice? bytes 4 20 →
        (p.code = q.code ∧ p.identifier = q.identifier ∧ p.seed = q.seed ∧ p.secret = q.secret ∧
            records = rows) ∨
          Collide (digestInput wire p.seed p.secret) (digestInput bytes q.seed q.secret)) := by
  obtain ⟨hwritten, -⟩ := encode_eq_ok_iff.1 hwire
  obtain ⟨hspelled, -⟩ := encode_eq_ok_iff.1 hbytes
  obtain ⟨content, hcontent, hmessage⟩ := exists_content hp hwritten
  obtain ⟨other, hother, hmessage'⟩ := exists_content hq hspelled
  have hp' := slice?_of_mem_computed hp hwritten
  have hq' := slice?_of_mem_computed hq hspelled
  -- One content is that of both packets, if the contents are the same.
  have hagree : content = other →
      p.code = q.code ∧ p.identifier = q.identifier ∧ content.records = other.records := by
    rintro rfl
    exact ⟨hcontent.code.symm.trans hother.code,
      hcontent.identifier.symm.trans hother.identifier, rfl⟩
  refine ⟨content.records, other.records, hcontent.writes, hother.writes, ?_, hp', hq', ?_⟩
  · intro seed seed' secret secret' h
    rw [hmessage, hmessage'] at h
    obtain ⟨hsame, hseed, hsecret⟩ := Content.message_inj h
    obtain ⟨hcode, hidentifier, hrecords⟩ := hagree hsame
    exact ⟨hcode, hidentifier, hseed, hsecret, hrecords⟩
  · intro hslice
    rw [hp', hq', Option.some.injEq, ← Block.ext_iff, hmessage, hmessage'] at hslice
    rw [hmessage, hmessage']
    rcases Content.eq_or_collide hslice with ⟨hsame, hseed, hsecret⟩ | hcollide
    · obtain ⟨hcode, hidentifier, hrecords⟩ := hagree hsame
      exact .inl ⟨hcode, hidentifier, hseed, hsecret, hrecords⟩
    · exact .inr hcollide

end

/-- An answer with one attribute, keyed with a secret that looks like a record. -/
def recordAsSecret : Packet where
  code := .coaAck
  identifier := 9
  authenticator := .zero
  secret := [25, 3, 7]
  attributes := [⟨25, .bytes [7]⟩]

/-- The answer with the secret among its records, keyed with nothing. -/
def secretAsRecord : Packet :=
  { recordAsSecret with secret := [], attributes := [⟨25, .bytes [7]⟩, ⟨25, .bytes [7]⟩] }

/-- The first answer with a user name, as text and as octets. -/
def namedAnswer (name : Value) : Packet :=
  { recordAsSecret with attributes := [⟨1, name⟩] }

/-- After the header and the seed, the digests of the two answers are taken of the same bytes. The
bytes are not the same as a whole, so the answers do not share an authenticator unless the digest
collides. A name that two dictionaries write to the same bytes is one record. -/
theorem digestInput_unambiguous_recordAsSecret :
    ∃ wire kept bytes left,
      recordAsSecret.encode .standard = .ok (wire, kept) ∧
      secretAsRecord.encode .empty = .ok (bytes, left) ∧
      wire.drop 20 ++ recordAsSecret.secret = bytes.drop 20 ++ secretAsRecord.secret ∧
      (∀ seed, digestInput wire seed recordAsSecret.secret
        ≠ digestInput bytes seed secretAsRecord.secret) ∧
      (slice? wire 4 20 = slice? bytes 4 20 →
        Collide (digestInput wire .zero recordAsSecret.secret)
          (digestInput bytes .zero secretAsRecord.secret)) ∧
      ∃ records,
        List.Forall₂ (Writes .standard (namedAnswer (.text "b")))
          [⟨1, .text "b"⟩] records ∧
        List.Forall₂ (Writes .empty (namedAnswer (.bytes [98]))) [⟨1, .bytes [98]⟩] records := by
  have hone : recordAsSecret.records .standard = .ok [25, 3, 7] := by decide +kernel
  have htwo : secretAsRecord.records .empty = .ok [25, 3, 7, 25, 3, 7] := by decide +kernel
  have htext : (namedAnswer (.text "b")).records .standard = .ok [1, 3, 98] := by decide +kernel
  have hoctets : (namedAnswer (.bytes [98])).records .empty = .ok [1, 3, 98] := by
    decide +kernel
  obtain ⟨first, kept, hfirst⟩ := exists_encode_of_mem_computed hone (by decide) (by decide)
  obtain ⟨second, left, hsecond⟩ := exists_encode_of_mem_computed htwo (by decide) (by decide)
  obtain ⟨third, _, hthird⟩ := exists_encode_of_mem_computed htext (by decide) (by decide)
  obtain ⟨fourth, _, hfourth⟩ := exists_encode_of_mem_computed hoctets (by decide) (by decide)
  obtain ⟨_, _, -, -, htold, -, -, hshared⟩ :=
    digestInput_unambiguous (by decide) hfirst (by decide) hsecond
  refine ⟨_, kept, _, left, hfirst, hsecond, ?_, ?_, ?_, ?_⟩
  · rw [drop_assembled, drop_assembled]
    rfl
  · intro seed h
    obtain ⟨-, -, -, hsecret, -⟩ := htold _ _ _ _ h
    exact absurd hsecret (by decide)
  · intro hslice
    rcases hshared hslice with ⟨-, -, -, hsecret, -⟩ | hcollide
    · exact absurd hsecret (by decide)
    · exact hcollide
  · obtain ⟨records, rows, hrecords, hrows, hnames, -⟩ :=
      digestInput_unambiguous (by decide) hthird (by decide) hfourth
    have hsame : digestInput ((namedAnswer (.text "b")).assembled third [1, 3, 98]) .zero []
        = digestInput ((namedAnswer (.bytes [98])).assembled fourth [1, 3, 98]) .zero [] := by
      rw [digestInput, digestInput, take_four_assembled, take_four_assembled, drop_assembled,
        drop_assembled]
      rfl
    obtain ⟨-, -, -, -, rfl⟩ := hnames _ _ _ _ hsame
    exact ⟨records, hrecords, hrows⟩

end Radius.Packet
