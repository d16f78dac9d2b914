import Radius.Proofs.Code
import Radius.Proofs.Packet.Record

/-!
# `Radius.Proofs.Packet.Layout`: where things stand in a datagram

The code stands in byte 0, the identifier in byte 1, the length in bytes 2 and 3, the
authenticator in bytes 4 to 19, and the records after them. Both directions are stated over these
places:

* `readBody_eq`: a datagram is read as the packet that its header announces (`ofHeader`), with
  the attributes that its records hold. The two readers come down to it (`decode_eq_ok_iff`,
  `decodeStrict_eq_ok_iff`).
* `wire_eq_ok_iff`: a packet is written as its header, an authenticator and its records
  (`assembled`).
* `assembled_ofHeader`: putting together again what a datagram announces gives the datagram,
  with the length that it has in place of the one that it declares (`withLength`).
-/

set_option autoImplicit false

namespace Radius.Packet

/-- The length that the bytes 2 and 3 of a datagram declare. -/
def lengthField (data : List UInt8) : Nat :=
  bigEndianValue ((data.drop 2).take 2)

/-- The datagram with its own length in the bytes 2 and 3. -/
def withLength (data : List UInt8) : List UInt8 :=
  data.take 2 ++ bigEndian 2 data.length ++ data.drop 4

/-- The packet that the header of a datagram announces, without attributes. -/
def ofHeader (secret data : List UInt8) : Packet where
  code := .ofByte (data.getD 0 0)
  identifier := data.getD 1 0
  authenticator := Block.ofBytes (data.drop 4)
  secret
  raw := some data

/-- The header of a packet that carries so many bytes of attributes. -/
def headerBytes (packet : Packet) (attributesLength : Nat) : List UInt8 :=
  packet.code.toByte :: packet.identifier :: bigEndian 2 (20 + attributesLength)

/-- A header, an authenticator and the bytes of records. -/
def assembled (packet : Packet) (authenticator : Block) (body : List UInt8) : List UInt8 :=
  packet.headerBytes body.length ++ authenticator.bytes ++ body

/-! ### Places in a datagram -/

/-- The bytes before the authenticator, in a datagram that has room for one. -/
theorem exists_four_bytes {data : List UInt8} (h : 20 ≤ data.length) :
    ∃ a b c d rest, data = a :: b :: c :: d :: rest ∧ 16 ≤ rest.length := by
  match data, h with
  | a :: b :: c :: d :: rest, h =>
    simp only [List.length_cons] at h
    exact ⟨a, b, c, d, rest, rfl, by omega⟩

/-- The authenticator of a datagram is its bytes 4 to 19. -/
theorem bytes_authenticator_ofHeader {secret data : List UInt8} (h : 20 ≤ data.length) :
    (ofHeader secret data).authenticator.bytes = (data.drop 4).take 16 :=
  Block.bytes_ofBytes_of_le (by rw [List.length_drop]; omega)

/-- Two bytes hold any length that a packet can have. -/
theorem bigEndianValue_length {n : Nat} (h : n ≤ maxLength) :
    bigEndianValue (bigEndian 2 n) = n := by
  rw [bigEndianValue_bigEndian]
  apply Nat.mod_eq_of_lt
  rw [maxLength] at h
  show n < 65536
  omega

/-- Cutting a datagram off after its length field leaves the field as it was. -/
theorem lengthField_take {data : List UInt8} {n : Nat} (h : 4 ≤ n) :
    lengthField (data.take n) = lengthField data := by
  rw [lengthField, lengthField, List.drop_take, List.take_take, Nat.min_eq_left (by omega)]

/-- Cutting a datagram off after a byte leaves the byte as it was. -/
theorem getD_take {data : List UInt8} {n i : Nat} (h : i < n) :
    (data.take n).getD i 0 = data.getD i 0 := by
  rw [List.getD_eq_getElem?_getD, List.getD_eq_getElem?_getD, List.getElem?_take_of_lt h]

/-- A datagram that declares its own length has it already. -/
theorem withLength_eq_self {data : List UInt8} (h : 20 ≤ data.length)
    (hlength : lengthField data = data.length) : withLength data = data := by
  obtain ⟨a, b, c, d, rest, rfl, -⟩ := exists_four_bytes h
  rw [withLength, ← hlength]
  show [a, b] ++ bigEndian [c, d].length (bigEndianValue [c, d]) ++ rest = _
  rw [bigEndian_bigEndianValue]
  rfl

section
variable (packet : Packet) (authenticator : Block) (body : List UInt8)

/-- A header without its authenticator has four bytes. -/
theorem length_headerBytes (n : Nat) : (packet.headerBytes n).length = 4 := rfl

/-- The records follow a header of twenty bytes. -/
theorem length_assembled :
    (packet.assembled authenticator body).length = 20 + body.length := by
  rw [assembled, List.length_append, List.length_append, length_headerBytes,
    Block.length_bytes]

/-- The first four bytes are the header. -/
theorem take_four_assembled :
    (packet.assembled authenticator body).take 4 = packet.headerBytes body.length := by
  rw [assembled, List.append_assoc]
  exact List.take_left' (length_headerBytes packet body.length)

/-- The authenticator and the records follow the first four bytes. -/
theorem drop_four_assembled :
    (packet.assembled authenticator body).drop 4 = authenticator.bytes ++ body := by
  rw [assembled, List.append_assoc]
  exact List.drop_left' (length_headerBytes packet body.length)

/-- The records are what follows the first twenty bytes. -/
theorem drop_assembled : (packet.assembled authenticator body).drop 20 = body := by
  rw [assembled]
  exact List.drop_left' (by rw [List.length_append, length_headerBytes, Block.length_bytes])

/-- The authenticator that was written is read back. -/
theorem ofBytes_drop_four_assembled :
    Block.ofBytes ((packet.assembled authenticator body).drop 4) = authenticator := by
  apply Block.ext
  rw [drop_four_assembled, Block.bytes_ofBytes_of_le (by simp),
    List.take_left' authenticator.length_bytes]

/-- The length that was written is read back, because it fits into two bytes. -/
theorem lengthField_assembled (h : 20 + body.length ≤ maxLength) :
    lengthField (packet.assembled authenticator body) = 20 + body.length :=
  bigEndianValue_length h

end

/-- What the header of a written packet announces: everything but its attributes and the
authenticator, which may be a digest. -/
theorem ofHeader_assembled {packet : Packet} (authenticator : Block) (body secret : List UInt8)
    (hcode : packet.code.sealing ≠ .unsealable) :
    ofHeader secret (packet.assembled authenticator body)
      = { code := packet.code, identifier := packet.identifier, authenticator, secret,
          raw := some (packet.assembled authenticator body) } := by
  have hbyte : Code.ofByte ((packet.assembled authenticator body).getD 0 0) = packet.code :=
    Code.ofByte_toByte hcode
  rw [ofHeader, hbyte, ofBytes_drop_four_assembled]
  rfl

/-- Putting together again what a datagram announces gives the datagram, with the length that it
has. Attributes play no part in it. -/
theorem assembled_ofHeader {data : List UInt8} (h : 20 ≤ data.length) (secret : List UInt8)
    (attributes : List Attribute) :
    ((ofHeader secret data).appendAll attributes).assembled
        (ofHeader secret data).authenticator (data.drop 20) = withLength data := by
  obtain ⟨a, b, c, d, rest, rfl, hrest⟩ := exists_four_bytes h
  have hlength : 20 + (rest.drop 16).length = (a :: b :: c :: d :: rest).length := by
    rw [List.length_drop]
    simp only [List.length_cons]
    omega
  have hrecords : (a :: b :: c :: d :: rest).drop 20 = rest.drop 16 := rfl
  rw [assembled, bytes_authenticator_ofHeader h, hrecords, headerBytes, hlength]
  -- The code is put in as the byte that it was read from.
  show (Code.ofByte a).toByte :: b :: bigEndian 2 _ ++ rest.take 16 ++ rest.drop 16
    = [a, b] ++ bigEndian 2 _ ++ rest
  rw [Code.toByte_ofByte, List.append_assoc, List.take_append_drop]
  rfl

/-! ### Reading a datagram -/

section
variable {dictionary : Dictionary} {secret data : List UInt8} {q : Packet}

/-- All that comes of the length that a datagram declares. A datagram without room for a header
declares none, and a length that no packet can have is refused. -/
theorem declaredLength_cases (data : List UInt8) :
    (data.length < 20 ∧ declaredLength data = .error (.tooShort data.length)) ∨
    (20 ≤ data.length ∧ (lengthField data < 20 ∨ 4095 < lengthField data) ∧
      declaredLength data = .error (.invalidLength (lengthField data))) ∨
    (20 ≤ data.length ∧ 20 ≤ lengthField data ∧ lengthField data ≤ 4095 ∧
      declaredLength data = .ok (lengthField data)) := by
  by_cases hshort : data.length < 20
  · exact .inl ⟨hshort, if_pos hshort⟩
  rw [declaredLength]
  by_cases hout : lengthField data < 20 ∨ 4095 < lengthField data
  · exact .inr (.inl ⟨by omega, hout, (if_neg hshort).trans (if_pos hout)⟩)
  · exact .inr (.inr ⟨by omega, by omega, by omega, (if_neg hshort).trans (if_neg hout)⟩)

/-- A declared length is accepted if a packet can have it, in a datagram that holds a header. -/
theorem declaredLength_eq_ok_iff {n : Nat} :
    declaredLength data = .ok n ↔
      20 ≤ data.length ∧ 20 ≤ n ∧ n ≤ maxLength ∧ lengthField data = n := by
  rw [maxLength]
  rcases declaredLength_cases data with
    ⟨hshort, h⟩ | ⟨-, hout, h⟩ | ⟨hlong, hleast, hmost, h⟩
  · rw [h]
    constructor
    · intro h'
      cases h'
    · omega
  · rw [h]
    constructor
    · intro h'
      cases h'
    · omega
  · rw [h, Except.ok.injEq]
    constructor
    · intro h'
      omega
    · exact fun h' => h'.2.2.2

/-- What some bytes hold, whatever length they declare: the packet that the header announces,
with the attributes that the records hold. -/
theorem readBody_eq (h : 20 ≤ data.length) :
    readBody dictionary secret data
      = readRecords dictionary (ofHeader secret data) (data.drop 20) := by
  obtain ⟨a, b, c, d, rest, rfl, -⟩ := exists_four_bytes h
  rfl

/-- A packet that was read is the one that the header announces, with attributes. -/
theorem exists_attributes_of_readBody (hlong : 20 ≤ data.length)
    (h : readBody dictionary secret data = .ok q) :
    ∃ attributes, q = (ofHeader secret data).appendAll attributes := by
  rw [readBody_eq hlong] at h
  exact exists_appendAll_of_readRecords h

/-- The attributes of a packet that was read are what the records of the datagram read as with its
key, one by one and in their order. -/
theorem reads_of_readBody [Digest] (hstock : ∀ type, (dictionary.codec type).Stock)
    (hlong : 20 ≤ data.length) (h : readBody dictionary secret data = .ok q) :
    ∃ records, Framed records (data.drop 20) ∧
      List.Forall₂ (Reads dictionary q) records q.attributes := by
  rw [readBody_eq hlong, readRecords_eq_ok_iff hstock] at h
  obtain ⟨records, attributes, hframed, hreads, rfl⟩ := h
  -- The packet that was read keys as its header does.
  have hkey : (ofHeader secret data).SameKey ((ofHeader secret data).appendAll attributes) :=
    ⟨rfl, rfl⟩
  exact ⟨records, hframed, hreads.imp fun _ _ hread => hread.congr (hstock _) fun _ => hkey⟩

/-- A packet that was read has the code that the first byte stands for, and the identifier of the
second. -/
theorem header_of_readBody (hlong : 20 ≤ data.length)
    (h : readBody dictionary secret data = .ok q) :
    q.code = .ofByte (data.getD 0 0) ∧ q.identifier = data.getD 1 0 := by
  obtain ⟨attributes, rfl⟩ := exists_attributes_of_readBody hlong h
  exact ⟨rfl, rfl⟩

/-- A packet is put together again as the datagram that it was read from, with the length that
this has, if its records stay as they were. -/
theorem assembled_of_readBody (hlong : 20 ≤ data.length)
    (h : readBody dictionary secret data = .ok q) :
    q.assembled q.authenticator (data.drop 20) = withLength data := by
  obtain ⟨attributes, rfl⟩ := exists_attributes_of_readBody hlong h
  exact assembled_ofHeader hlong secret attributes

/-- All that `decode` can do. It refuses a datagram for its length, refuses it for the length that
it declares, or reads it to its end. -/
theorem decode_cases (dictionary : Dictionary) (secret data : List UInt8) :
    (data.length < 20 ∧ decode dictionary secret data = .error (.tooShort data.length)) ∨
    (20 ≤ data.length ∧ (lengthField data < 20 ∨ 4095 < lengthField data) ∧
      decode dictionary secret data = .error (.invalidLength (lengthField data))) ∨
    (20 ≤ data.length ∧ 20 ≤ lengthField data ∧ lengthField data ≤ 4095 ∧
      decode dictionary secret data = readBody dictionary secret data) := by
  rcases declaredLength_cases data with
    ⟨hshort, h⟩ | ⟨hlong, hout, h⟩ | ⟨hlong, hleast, hmost, h⟩
  · exact .inl ⟨hshort, by rw [decode, h]⟩
  · exact .inr (.inl ⟨hlong, hout, by rw [decode, h]⟩)
  · exact .inr (.inr ⟨hlong, hleast, hmost, by rw [decode, h]⟩)

/-- `decode` reads a datagram to its end. -/
theorem decode_eq_ok_iff :
    decode dictionary secret data = .ok q ↔
      20 ≤ data.length ∧ 20 ≤ lengthField data ∧ lengthField data ≤ maxLength ∧
        readBody dictionary secret data = .ok q := by
  rw [maxLength]
  rcases decode_cases dictionary secret data with
    ⟨hshort, h⟩ | ⟨-, hout, h⟩ | ⟨hlong, hleast, hmost, h⟩
  · rw [h]
    constructor
    · intro h'
      cases h'
    · omega
  · rw [h]
    constructor
    · intro h'
      cases h'
    · omega
  · rw [h]
    exact ⟨fun h' => ⟨hlong, hleast, hmost, h'⟩, fun h' => h'.2.2.2⟩

/-- All that `decodeStrict` can do. It refuses a datagram for its length, refuses it for the length
that it declares, or reads it to there. -/
theorem decodeStrict_cases (dictionary : Dictionary) (secret data : List UInt8) :
    (data.length < 20 ∧ decodeStrict dictionary secret data = .error (.tooShort data.length)) ∨
    (20 ≤ data.length ∧
      (lengthField data < 20 ∨ 4095 < lengthField data ∨ data.length < lengthField data) ∧
      decodeStrict dictionary secret data = .error (.invalidLength (lengthField data))) ∨
    (20 ≤ lengthField data ∧ lengthField data ≤ 4095 ∧ lengthField data ≤ data.length ∧
      decodeStrict dictionary secret data
        = readBody dictionary secret (data.take (lengthField data))) := by
  rcases declaredLength_cases data with
    ⟨hshort, h⟩ | ⟨hlong, hout, h⟩ | ⟨hlong, hleast, hmost, h⟩
  · exact .inl ⟨hshort, by rw [decodeStrict, h]⟩
  · exact .inr (.inl ⟨hlong, by omega, by rw [decodeStrict, h]⟩)
  -- The length is one that a packet can have, and it may still reach past the end.
  by_cases hcut : data.length < lengthField data
  · refine .inr (.inl ⟨hlong, by omega, ?_⟩)
    rw [decodeStrict, h]
    exact if_pos hcut
  · refine .inr (.inr ⟨hleast, hmost, by omega, ?_⟩)
    rw [decodeStrict, h]
    exact if_neg hcut

/-- `decodeStrict` reads a datagram to the length that it declares. -/
theorem decodeStrict_eq_ok_iff :
    decodeStrict dictionary secret data = .ok q ↔
      20 ≤ lengthField data ∧ lengthField data ≤ maxLength ∧ lengthField data ≤ data.length ∧
        readBody dictionary secret (data.take (lengthField data)) = .ok q := by
  rw [maxLength]
  rcases decodeStrict_cases dictionary secret data with
    ⟨hshort, h⟩ | ⟨-, hout, h⟩ | ⟨hleast, hmost, hwhole, h⟩
  · rw [h]
    constructor
    · intro h'
      cases h'
    · omega
  · rw [h]
    constructor
    · intro h'
      cases h'
    · omega
  · rw [h]
    exact ⟨fun h' => ⟨hleast, hmost, hwhole, h'⟩, fun h' => h'.2.2.2⟩

/-- The two readers differ only where a datagram goes on after the length that it declares. -/
theorem decodeStrict_eq_decode (h : lengthField data = data.length) :
    decodeStrict dictionary secret data = decode dictionary secret data := by
  unfold decodeStrict decode
  cases hn : declaredLength data with
  | error cause => rfl
  | ok n =>
    obtain ⟨-, -, -, rfl⟩ := declaredLength_eq_ok_iff.1 hn
    show (if data.length < lengthField data then _ else _) = _
    rw [h, if_neg (Nat.lt_irrefl _), List.take_length]

/-- The part of a datagram that `decodeStrict` reads has the length that it declares. -/
theorem lengthField_take_lengthField (hleast : 20 ≤ lengthField data)
    (hwhole : lengthField data ≤ data.length) :
    (data.take (lengthField data)).length = lengthField data ∧
      lengthField (data.take (lengthField data)) = lengthField data :=
  ⟨by rw [List.length_take, Nat.min_eq_left hwhole], lengthField_take (by omega)⟩

/-- What either reader returns is the packet that the header announces, with attributes. The bytes
that it was read from are the first ones of the datagram, the header among them. -/
theorem exists_attributes_of_readers {reader : Reader}
    (hreader : reader = decode ∨ reader = decodeStrict)
    (h : reader dictionary secret data = .ok q) :
    ∃ n attributes, 20 ≤ n ∧ q = (ofHeader secret (data.take n)).appendAll attributes := by
  rcases hreader with rfl | rfl
  · obtain ⟨hlong, -, -, hbody⟩ := decode_eq_ok_iff.1 h
    obtain ⟨attributes, hq⟩ := exists_attributes_of_readBody hlong hbody
    exact ⟨data.length, attributes, hlong, by rw [List.take_length, hq]⟩
  · obtain ⟨hleast, -, hwhole, hbody⟩ := decodeStrict_eq_ok_iff.1 h
    have hlength := (lengthField_take_lengthField hleast hwhole).1
    obtain ⟨attributes, hq⟩ := exists_attributes_of_readBody (by omega) hbody
    exact ⟨lengthField data, attributes, hleast, hq⟩

/-- What either reader refuses a datagram for: its length, the length that it declares, or what is
wrong in the part that it reads, which has room for a header. -/
theorem fault_of_readers {reader : Reader} (hreader : reader = decode ∨ reader = decodeStrict)
    {cause : PacketError} (h : reader dictionary secret data = .error cause) :
    cause = .tooShort data.length ∨ cause = .invalidLength (lengthField data) ∨
      ∃ part, 20 ≤ part.length ∧ readBody dictionary secret part = .error cause := by
  rcases hreader with rfl | rfl
  · rcases decode_cases dictionary secret data with
      ⟨-, h'⟩ | ⟨-, -, h'⟩ | ⟨hlong, -, -, h'⟩
    · rw [h'] at h
      exact .inl (Except.error.inj h).symm
    · rw [h'] at h
      exact .inr (.inl (Except.error.inj h).symm)
    · exact .inr (.inr ⟨data, hlong, h' ▸ h⟩)
  · rcases decodeStrict_cases dictionary secret data with
      ⟨-, h'⟩ | ⟨-, -, h'⟩ | ⟨hleast, -, hwhole, h'⟩
    · rw [h'] at h
      exact .inl (Except.error.inj h).symm
    · rw [h'] at h
      exact .inr (.inl (Except.error.inj h).symm)
    · have hlength := (lengthField_take_lengthField hleast hwhole).1
      exact .inr (.inr ⟨data.take (lengthField data), by omega, h' ▸ h⟩)

/-- Both readers take the identifier from the second byte. -/
theorem identifier_of_readers {reader : Reader} (hreader : reader = decode ∨ reader = decodeStrict)
    (h : reader dictionary secret data = .ok q) : q.identifier = data.getD 1 0 := by
  obtain ⟨n, attributes, hn, rfl⟩ := exists_attributes_of_readers hreader h
  exact getD_take (by omega)

/-- Both readers key the packet with the secret that they are given. -/
theorem secret_of_readers {reader : Reader} (hreader : reader = decode ∨ reader = decodeStrict)
    (h : reader dictionary secret data = .ok q) : q.secret = secret := by
  obtain ⟨n, attributes, -, rfl⟩ := exists_attributes_of_readers hreader h
  rfl

end

/-! ### Writing a datagram -/

section
variable {dictionary : Dictionary} {packet : Packet} {body : List UInt8}

/-- The header of a packet that is not too long. -/
theorem header_eq_ok (h : 20 + body.length ≤ maxLength) :
    packet.header body.length = .ok (packet.headerBytes body.length) := by
  show (if maxLength < 20 + body.length then _ else _) = _
  rw [if_neg (by omega)]
  rfl

variable [Digest]

/-- A packet whose records fit is written, if its code has a form on the wire. -/
theorem wire_of_records (hrecords : packet.records dictionary = .ok body)
    (hmost : 20 + body.length ≤ maxLength) :
    packet.wire dictionary
      = (packet.authenticatorField (packet.headerBytes body.length) body).map
          (packet.assembled · body) := by
  unfold wire
  rw [hrecords]
  simp only [header_eq_ok hmost]
  cases packet.authenticatorField (packet.headerBytes body.length) body with
  | error cause => rfl
  | ok authenticator => rfl

/-- A packet whose records do not fit is not written, whatever its code. -/
theorem wire_of_long (hrecords : packet.records dictionary = .ok body)
    (hlong : maxLength < 20 + body.length) :
    packet.wire dictionary = .error (.packetTooLong (20 + body.length)) := by
  have hheader : packet.header body.length = .error (.packetTooLong (20 + body.length)) :=
    if_pos hlong
  unfold wire
  rw [hrecords]
  simp only [hheader]

/-- Which bytes a packet is written as. -/
theorem wire_eq_ok_iff {wire : List UInt8} :
    packet.wire dictionary = .ok wire ↔
      ∃ records body authenticator,
        List.Forall₂ (Writes dictionary packet) packet.attributes records ∧
        Framed records body ∧ 20 + body.length ≤ maxLength ∧
        packet.authenticatorField (packet.headerBytes body.length) body = .ok authenticator ∧
        wire = packet.assembled authenticator body := by
  constructor
  · intro h
    -- The records may fail, then the length, and the authenticator after both.
    cases hbody : packet.records dictionary with
    | error cause =>
      rw [Packet.wire, hbody] at h
      cases h
    | ok body =>
      obtain ⟨records, hwrites, hframed⟩ := recordsOf_eq_ok_iff.1 hbody
      have hmost : 20 + body.length ≤ maxLength := by
        apply Nat.not_lt.mp
        intro hlong
        rw [wire_of_long hbody hlong] at h
        cases h
      rw [wire_of_records hbody hmost] at h
      cases hfield : packet.authenticatorField (packet.headerBytes body.length) body with
      | error cause =>
        rw [hfield] at h
        cases h
      | ok authenticator =>
        rw [hfield] at h
        cases h
        exact ⟨records, body, authenticator, hwrites, hframed, hmost, hfield, rfl⟩
  · rintro ⟨records, body, authenticator, hwrites, hframed, hmost, hfield, rfl⟩
    rw [wire_of_records (recordsOf_eq_ok_iff.2 ⟨records, hwrites, hframed⟩) hmost, hfield]
    rfl

/-! ### The authenticator on the wire -/

variable {header : List UInt8}

/-- The field carries the authenticator of a packet that is sent with it. -/
theorem authenticatorField_of_mem_stored (h : packet.code ∈ Code.stored) :
    packet.authenticatorField header body = .ok packet.authenticator := by
  unfold authenticatorField
  rw [Code.sealing_eq_stored_iff.2 h]

/-- The field of a reply carries a digest that is seeded with its authenticator. -/
theorem authenticatorField_of_mem_replies (h : packet.code ∈ Code.replies) :
    packet.authenticatorField header body
      = .ok (sealed header packet.authenticator body packet.secret) := by
  unfold authenticatorField
  rw [Code.sealing_of_mem_replies h]

/-- The field of a packet that carries a digest can be filled in. -/
theorem exists_authenticatorField_of_mem_computed (header body : List UInt8)
    (h : packet.code ∈ Code.computed) :
    ∃ authenticator, packet.authenticatorField header body = .ok authenticator := by
  unfold authenticatorField
  rcases Code.mem_computed_iff.1 h with h | h <;> rw [h]
  · exact ⟨_, rfl⟩
  · exact ⟨_, rfl⟩

/-- Nothing can stand in the field of a packet whose code has no form on the wire. -/
theorem authenticatorField_of_unsealable (h : packet.code.sealing = .unsealable) :
    packet.authenticatorField header body = .error (.unknownCode packet.code.toByte) := by
  unfold authenticatorField
  rw [h]

/-! ### What is sent -/

variable {wire : List UInt8}

/-- Encoding gives the bytes of a packet, and the packet as it is kept. -/
theorem encode_eq_ok_iff {kept : Packet} :
    packet.encode dictionary = .ok (wire, kept) ↔
      packet.wire dictionary = .ok wire ∧ kept = packet.sent wire := by
  unfold encode
  cases packet.wire dictionary with
  | error cause => simp
  | ok bytes =>
    simp only [Except.ok.injEq, Prod.mk.injEq]
    constructor
    · rintro ⟨rfl, rfl⟩
      exact ⟨rfl, rfl⟩
    · rintro ⟨rfl, rfl⟩
      exact ⟨rfl, rfl⟩

/-- Encoding fails as writing does. -/
theorem encode_eq_error_iff {cause : PacketError} :
    packet.encode dictionary = .error cause ↔ packet.wire dictionary = .error cause := by
  unfold encode
  cases packet.wire dictionary with
  | error other => simp
  | ok bytes => simp

/-- A packet that carries its authenticator is sent with it, and kept as it is. -/
theorem encode_of_mem_stored (hrecords : packet.records dictionary = .ok body)
    (hmost : 20 + body.length ≤ maxLength) (h : packet.code ∈ Code.stored) :
    packet.encode dictionary = .ok (packet.assembled packet.authenticator body, packet) := by
  rw [encode_eq_ok_iff, wire_of_records hrecords hmost, authenticatorField_of_mem_stored h]
  refine ⟨rfl, ?_⟩
  rw [sent, Code.keepsDigest_of_mem_stored h]
  rfl

/-- A packet that carries a digest is sent with some digest. -/
theorem exists_encode_of_mem_computed (hrecords : packet.records dictionary = .ok body)
    (hmost : 20 + body.length ≤ maxLength) (h : packet.code ∈ Code.computed) :
    ∃ authenticator kept,
      packet.encode dictionary = .ok (packet.assembled authenticator body, kept) := by
  obtain ⟨authenticator, hfield⟩ :=
    exists_authenticatorField_of_mem_computed (packet.headerBytes body.length) body h
  refine ⟨authenticator, _, encode_eq_ok_iff.2 ⟨?_, rfl⟩⟩
  rw [wire_of_records hrecords hmost, hfield]
  rfl

/-- A packet with any other code is not sent, and the fault names its code. -/
theorem encode_of_unsealable (hrecords : packet.records dictionary = .ok body)
    (hmost : 20 + body.length ≤ maxLength) (h : packet.code.sealing = .unsealable) :
    packet.encode dictionary = .error (.unknownCode packet.code.toByte) := by
  rw [encode_eq_error_iff, wire_of_records hrecords hmost, authenticatorField_of_unsealable h]
  rfl

/-- The code is the only fault that is left to a packet whose records fit. -/
theorem eq_unknownCode_of_encode {cause : PacketError}
    (hrecords : packet.records dictionary = .ok body) (hmost : 20 + body.length ≤ maxLength)
    (h : packet.encode dictionary = .error cause) :
    cause = .unknownCode packet.code.toByte ∧ packet.code ∉ Code.stored ∧
      packet.code ∉ Code.computed := by
  by_cases hstored : packet.code ∈ Code.stored
  · rw [encode_of_mem_stored hrecords hmost hstored] at h
    cases h
  by_cases hcomputed : packet.code ∈ Code.computed
  · obtain ⟨authenticator, kept, hencode⟩ :=
      exists_encode_of_mem_computed hrecords hmost hcomputed
    rw [hencode] at h
    cases h
  rw [encode_of_unsealable hrecords hmost
    (Code.sealing_eq_unsealable_iff.2 ⟨hstored, hcomputed⟩)] at h
  cases h
  exact ⟨rfl, hstored, hcomputed⟩

/-- The bytes of a packet have a length that a header can declare. -/
theorem length_of_wire (h : packet.wire dictionary = .ok wire) :
    20 ≤ wire.length ∧ wire.length ≤ maxLength := by
  obtain ⟨records, body, authenticator, -, -, hmost, -, rfl⟩ := wire_eq_ok_iff.1 h
  rw [length_assembled]
  exact ⟨by omega, hmost⟩

/-- What is written starts with the code and the identifier, whatever the codecs are. -/
theorem take_four_of_wire (h : packet.wire dictionary = .ok wire) :
    wire.take 4 = packet.code.toByte :: packet.identifier :: bigEndian 2 wire.length := by
  obtain ⟨records, body, authenticator, -, -, -, -, rfl⟩ := wire_eq_ok_iff.1 h
  rw [take_four_assembled, length_assembled, headerBytes]

/-- The bytes of a packet declare their own length. -/
theorem lengthField_of_wire (h : packet.wire dictionary = .ok wire) :
    lengthField wire = wire.length := by
  obtain ⟨records, body, authenticator, -, -, hmost, -, rfl⟩ := wire_eq_ok_iff.1 h
  rw [lengthField_assembled packet authenticator body hmost, length_assembled]

/-- What the header of a written packet announces, for the bytes as a whole. -/
theorem ofHeader_of_wire (secret : List UInt8) (h : packet.wire dictionary = .ok wire) :
    ofHeader secret wire
      = { code := packet.code, identifier := packet.identifier,
          authenticator := Block.ofBytes (wire.drop 4), secret, raw := some wire } := by
  obtain ⟨records, body, authenticator, -, -, -, hfield, rfl⟩ := wire_eq_ok_iff.1 h
  have hcode : packet.code.sealing ≠ .unsealable := by
    intro hsealing
    rw [authenticatorField_of_unsealable hsealing] at hfield
    cases hfield
  rw [ofHeader_assembled authenticator body secret hcode, ofBytes_drop_four_assembled]

/-- A packet that carries its authenticator carries it in the bytes 4 to 19. -/
theorem ofBytes_drop_four_of_wire (hstored : packet.code ∈ Code.stored)
    (h : packet.wire dictionary = .ok wire) :
    Block.ofBytes (wire.drop 4) = packet.authenticator := by
  obtain ⟨records, body, authenticator, -, -, -, hfield, rfl⟩ := wire_eq_ok_iff.1 h
  rw [authenticatorField_of_mem_stored hstored, Except.ok.injEq] at hfield
  rw [ofBytes_drop_four_assembled, hfield]

end

end Radius.Packet
