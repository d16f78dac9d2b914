import Radius.Digest.Md5
import Radius.Proofs.Packet.Slices

/-!
# `Radius.Proofs.Packet.Grammar`: the datagrams that the strict reader accepts

`decodeStrict` accepts a grammar: a header whose length is in range and not past the end, and a row
of records up to that length, each of which its codec reads (`Grammatical`). `Fault` says what is
wrong with any other datagram, without reading it. It names the first thing from the left:

* the length of the datagram, then the length that it declares;
* then the first place where a record should start and none does that reads. Everything before it
  is a row of records that read (`RowFault`). What stands there is a single byte, a length byte that
  does not fit, or a record that its codec refuses (`RecordFault`).

`readRecords_eq_error_iff` is the loop over the records, by induction on its rounds. It stands
beside `readRecords_eq_ok_iff`. `decodeStrict_grammar` is the reader as a whole.
-/

set_option autoImplicit false

namespace Radius.Packet

/-- The datagram is a packet, and `q` is this packet:

- `enough`: there is room for a header;
- `least`, `most`, `whole`: the declared length is one that a packet can have, and is there;
- `records`: what follows the header is a row of records, in this way only. They read, one by one,
  as the attributes of `q`, with the secret and the authenticator of the datagram as the key;
- the other fields of `q` are the secret and the places of the header. -/
structure Grammatical (dictionary : Dictionary) (secret data : List UInt8) (q : Packet) : Prop where
  enough : 20 ≤ data.length
  least : 20 ≤ lengthField data
  most : lengthField data ≤ 4095
  whole : lengthField data ≤ data.length
  records : ∃ records, Framed records ((data.take (lengthField data)).drop 20) ∧
    (∀ others, Framed others ((data.take (lengthField data)).drop 20) → others = records) ∧
    List.Forall₂ (Reads dictionary (ofHeader secret (data.take (lengthField data)))) records
      q.attributes
  code : q.code = .ofByte (data.getD 0 0)
  identifier : q.identifier = data.getD 1 0
  authenticator : q.authenticator.bytes = (data.drop 4).take 16
  raw : q.raw = some (data.take (lengthField data))
  secret : q.secret = secret

/-- What is wrong with bytes that should start with a record. -/
inductive RecordFault (dictionary : Dictionary) (key : Packet) : List UInt8 → PacketError → Prop
  | lone (byte : UInt8) : RecordFault dictionary key [byte] (.recordTooShort 1)
  | length {type length : UInt8} {rest : List UInt8}
      (h : length.toNat < 2 ∨ rest.length + 2 < length.toNat) :
      RecordFault dictionary key (type :: length :: rest) (.invalidAttributeLength length)
  | codec {record : Record} {rest : List UInt8} {cause : CodecError}
      (hfit : record.value.length ≤ maxValueLength)
      (h : (dictionary.codec record.type).decode key record.value = .error cause) :
      RecordFault dictionary key (record.bytes ++ rest) (.codec cause)

/-- What is wrong with bytes that should be a row of records. The records before it read. -/
inductive RowFault (dictionary : Dictionary) (key : Packet) (bytes : List UInt8) :
    PacketError → Prop
  | intro {records : List Record} {attributes : List Attribute} {front rest : List UInt8}
      {cause : PacketError} (hbytes : bytes = front ++ rest) (hframed : Framed records front)
      (hreads : List.Forall₂ (Reads dictionary key) records attributes)
      (hfault : RecordFault dictionary key rest cause) : RowFault dictionary key bytes cause

/-- What is wrong with a datagram that is no packet. -/
inductive Fault (dictionary : Dictionary) (secret data : List UInt8) : PacketError → Prop
  | tooShort (h : data.length < 20) : Fault dictionary secret data (.tooShort data.length)
  | length (henough : 20 ≤ data.length)
      (h : lengthField data < 20 ∨ 4095 < lengthField data ∨ data.length < lengthField data) :
      Fault dictionary secret data (.invalidLength (lengthField data))
  | row {cause : PacketError} (hleast : 20 ≤ lengthField data) (hmost : lengthField data ≤ 4095)
      (hwhole : lengthField data ≤ data.length)
      (h : RowFault dictionary (ofHeader secret (data.take (lengthField data)))
        ((data.take (lengthField data)).drop 20) cause) : Fault dictionary secret data cause

section
variable {dictionary : Dictionary} {packet q : Packet} {secret data bytes : List UInt8}
variable {cause : PacketError}

/-! ### The header -/

/-- The header is in the part of a datagram that the strict reader reads. -/
theorem ofHeader_take (secret : List UInt8) {n : Nat} (hleast : 20 ≤ n) (hwhole : n ≤ data.length) :
    ofHeader secret (data.take n) = { ofHeader secret data with raw := some (data.take n) } := by
  have hlength : (data.take n).length = n := by rw [List.length_take, Nat.min_eq_left hwhole]
  have hauthenticator : Block.ofBytes ((data.take n).drop 4) = Block.ofBytes (data.drop 4) := by
    apply Block.ext
    rw [Block.bytes_ofBytes_of_le (by rw [List.length_drop]; omega),
      Block.bytes_ofBytes_of_le (by rw [List.length_drop]; omega), List.drop_take, List.take_take,
      Nat.min_eq_left (by omega)]
  rw [ofHeader, ofHeader, getD_take (by omega), getD_take (by omega), hauthenticator]

/-- The part of a datagram that the strict reader reads is long enough for a header. -/
theorem readBody_take_lengthField (hleast : 20 ≤ lengthField data)
    (hwhole : lengthField data ≤ data.length) :
    readBody dictionary secret (data.take (lengthField data))
      = readRecords dictionary (ofHeader secret (data.take (lengthField data)))
          ((data.take (lengthField data)).drop 20) :=
  readBody_eq (by rw [(lengthField_take_lengthField hleast hwhole).1]; exact hleast)

/-- The packet of a datagram is the one that its header announces, with attributes. -/
theorem Grammatical.eq_appendAll (h : Grammatical dictionary secret data q) :
    q = (ofHeader secret (data.take (lengthField data))).appendAll q.attributes := by
  have hauthenticator : q.authenticator = (ofHeader secret data).authenticator :=
    Block.ext (h.authenticator.trans (bytes_authenticator_ofHeader h.enough).symm)
  rw [ofHeader_take secret h.least h.whole]
  cases q
  simp only [appendAll, ofHeader, List.nil_append, Packet.mk.injEq]
  exact ⟨h.code, h.identifier, hauthenticator, h.secret, h.raw, trivial⟩

/-! ### The records -/

/-- Bytes that should start with a record are refused for their fault. -/
theorem readRecords_of_recordFault (h : RecordFault dictionary packet bytes cause) :
    readRecords dictionary packet bytes = .error cause := by
  cases h with
  | lone byte => rw [readRecords]
  | length houtside => rw [readRecords, if_pos houtside]
  | codec hfit hrefused =>
    rw [readRecords_bytes_append hfit, hrefused]
    rfl

/-- What is wrong with the first record is wrong with the whole row. -/
theorem RecordFault.rowFault (h : RecordFault dictionary packet bytes cause) :
    RowFault dictionary packet bytes cause :=
  .intro (List.nil_append _).symm (framed_nil_iff.2 rfl) .nil h

variable [Digest]

/-- Bytes have the same fault with any two packets that key alike. -/
theorem RecordFault.congr (hstock : ∀ type, (dictionary.codec type).Stock)
    (hkey : packet.SameKey q) (h : RecordFault dictionary packet bytes cause) :
    RecordFault dictionary q bytes cause := by
  cases h with
  | lone byte => exact .lone byte
  | length houtside => exact .length houtside
  | codec hfit hrefused =>
    rw [(hstock _).decode_congr fun _ => hkey] at hrefused
    exact .codec hfit hrefused

/-- The packet grows while its records are read, and keeps its faults. -/
theorem recordFault_append_iff (hstock : ∀ type, (dictionary.codec type).Stock)
    {before : Attribute} :
    RecordFault dictionary (packet.append before) bytes cause ↔
      RecordFault dictionary packet bytes cause :=
  ⟨.congr hstock ⟨rfl, rfl⟩, .congr hstock ⟨rfl, rfl⟩⟩

/-- A fault of what follows a record that reads is a fault of the whole. -/
theorem RowFault.cons (hstock : ∀ type, (dictionary.codec type).Stock) {record : Record}
    {attr : Attribute} {rest : List UInt8} (hfit : record.value.length ≤ maxValueLength)
    (hread : Reads dictionary packet record attr)
    (h : RowFault dictionary (packet.append attr) rest cause) :
    RowFault dictionary packet (record.bytes ++ rest) cause := by
  obtain ⟨rfl, hframed, hreads, hfault⟩ := h
  have hothers := hreads.imp fun _ _ => (reads_append_iff hstock).1
  exact .intro (List.append_assoc _ _ _).symm (framed_cons_iff.2 ⟨hfit, _, rfl, hframed⟩)
    (.cons hread hothers) ((recordFault_append_iff hstock).1 hfault)

/-- A row of records is refused for a cause exactly if that is its first fault. -/
theorem readRecords_eq_error_iff (hstock : ∀ type, (dictionary.codec type).Stock) :
    readRecords dictionary packet bytes = .error cause ↔
      RowFault dictionary packet bytes cause := by
  constructor
  · intro h
    -- By the rounds of the reader. The last one finds the fault, with nothing before it.
    fun_induction readRecords dictionary packet bytes with
    | case1 => cases h
    | case2 packet byte =>
      cases h
      exact (RecordFault.lone byte).rowFault
    | case3 packet type length rest houtside =>
      cases h
      exact (RecordFault.length houtside).rowFault
    | case4 packet type length rest hinside refusal hrefused =>
      cases h
      obtain ⟨hfit, hrecord⟩ := Record.bytes_of_length type hinside
      rw [hrecord]
      exact (RecordFault.codec hfit hrefused).rowFault
    | case5 packet type length rest hinside value hvalue ih =>
      obtain ⟨hfit, hrecord⟩ := Record.bytes_of_length type hinside
      rw [hrecord]
      exact .cons hstock hfit ⟨rfl, hvalue⟩ (ih h)
  · rintro @⟨records, attributes, front, rest, _, rfl, hframed, hreads, hfault⟩
    -- By the records before the fault: each is one round.
    induction records generalizing packet front attributes with
    | nil =>
      rw [framed_nil_iff.1 hframed, List.nil_append]
      exact readRecords_of_recordFault hfault
    | cons record records ih =>
      obtain ⟨hfit, others, rfl, hothers⟩ := framed_cons_iff.1 hframed
      obtain ⟨⟨type, value⟩, later, ⟨htype, hvalue⟩, hlater, rfl⟩ :=
        List.forall₂_cons_left_iff.1 hreads
      obtain rfl : type = record.type := htype
      rw [List.append_assoc, readRecords_append hfit hvalue]
      -- What is left is read with the key of the grown packet, which is the same key.
      have htail : List.Forall₂ (Reads dictionary (packet.append ⟨record.type, value⟩))
          records later :=
        hlater.imp fun _ _ => (reads_append_iff hstock).2
      exact ih hothers htail ((recordFault_append_iff hstock).2 hfault)

/-! ### The datagram -/

/-- The strict reader gives a packet exactly if the datagram is this packet. -/
theorem decodeStrict_eq_ok_iff_grammatical (hstock : ∀ type, (dictionary.codec type).Stock) :
    decodeStrict dictionary secret data = .ok q ↔ Grammatical dictionary secret data q := by
  constructor
  · intro h
    obtain ⟨hleast, hmost, hwhole, hbody⟩ := decodeStrict_eq_ok_iff.1 h
    rw [readBody_take_lengthField hleast hwhole, readRecords_eq_ok_iff hstock] at hbody
    obtain ⟨records, attributes, hframed, hreads, rfl⟩ := hbody
    have henough : 20 ≤ data.length := by omega
    have hheader := ofHeader_take secret hleast hwhole
    have hauthenticator : (ofHeader secret (data.take (lengthField data))).authenticator.bytes
        = (data.drop 4).take 16 :=
      calc (ofHeader secret (data.take (lengthField data))).authenticator.bytes
        _ = (ofHeader secret data).authenticator.bytes := by rw [hheader]
        _ = (data.drop 4).take 16 := bytes_authenticator_ofHeader henough
    exact {
      enough := henough
      least := hleast
      most := hmost
      whole := hwhole
      records := ⟨records, hframed, fun _ hothers => hothers.unique hframed, hreads⟩
      code := congrArg Packet.code hheader
      identifier := congrArg Packet.identifier hheader
      authenticator := hauthenticator
      raw := rfl
      secret := rfl }
  · intro h
    obtain ⟨records, hframed, -, hreads⟩ := h.records
    have hbody : readBody dictionary secret (data.take (lengthField data)) = .ok q := by
      rw [readBody_take_lengthField h.least h.whole, readRecords_eq_ok_iff hstock]
      exact ⟨records, q.attributes, hframed, hreads, h.eq_appendAll⟩
    exact decodeStrict_eq_ok_iff.2 ⟨h.least, h.most, h.whole, hbody⟩

/-- The strict reader refuses a datagram for a cause exactly if that is its first fault. -/
theorem decodeStrict_eq_error_iff (hstock : ∀ type, (dictionary.codec type).Stock) :
    decodeStrict dictionary secret data = .error cause ↔ Fault dictionary secret data cause := by
  constructor
  · intro h
    rcases decodeStrict_cases dictionary secret data with
      ⟨hshort, h'⟩ | ⟨henough, hout, h'⟩ | ⟨hleast, hmost, hwhole, h'⟩
    · rw [h'] at h; cases h
      exact .tooShort hshort
    · rw [h'] at h; cases h
      exact .length henough hout
    · rw [h', readBody_take_lengthField hleast hwhole, readRecords_eq_error_iff hstock] at h
      exact .row hleast hmost hwhole h
  · intro h
    rcases decodeStrict_cases dictionary secret data with
      ⟨hshort, h'⟩ | ⟨henough, hout, h'⟩ | ⟨hleast, hmost, hwhole, h'⟩
    · cases h with
      | tooShort => exact h'
      | length henough => omega
      | row hleast _ hwhole => omega
    · cases h with
      | tooShort hshort => omega
      | length => exact h'
      | row hleast hmost hwhole => omega
    · cases h with
      | tooShort hshort => omega
      | length _ hout => omega
      | row _ _ _ hrow =>
        rw [h', readBody_take_lengthField hleast hwhole, (readRecords_eq_error_iff hstock).2 hrow]

/-- What the strict reader makes of any bytes. It accepts exactly the packets of the grammar, and
gives the packet that the datagram is. It refuses every other datagram for its first fault from the
left. It never asks for a place outside of the datagram. -/
theorem decodeStrict_grammar (hbuilt : dictionary.BuiltFrom Codec.Stock)
    (secret data : List UInt8) :
    (∀ q, decodeStrict dictionary secret data = .ok q ↔ Grammatical dictionary secret data q) ∧
    (∀ cause, decodeStrict dictionary secret data = .error cause ↔
      Fault dictionary secret data cause) ∧
    decodeStrict? dictionary secret data = some (decodeStrict dictionary secret data) :=
  ⟨fun _ => decodeStrict_eq_ok_iff_grammatical hbuilt.stock,
    fun _ => decodeStrict_eq_error_iff hbuilt.stock, decodeStrict?_eq dictionary secret data⟩

end

/-- A request with a name and two bytes of padding. -/
def namedDatagram : List UInt8 :=
  [1, 7, 0, 26] ++ List.replicate 16 5 ++ [1, 6, 110, 101, 109, 111] ++ [9, 9]

/-- The packet that it is. -/
def namedRequest : Packet where
  code := .accessRequest
  identifier := 7
  authenticator := ⟨List.replicate 16 5, rfl⟩
  secret := []
  raw := some (namedDatagram.take 26)
  attributes := [⟨1, .text "nemo"⟩]

/-- A name, an address of three bytes and a single byte. -/
def faultyDatagram : List UInt8 :=
  [1, 7, 0, 32] ++ List.replicate 16 5 ++ [1, 6, 110, 101, 109, 111] ++ [8, 5, 10, 0, 0] ++ [9]

/-- The first datagram is a packet although padding follows it. The second has two faults, and the
first of them is the length of the address. -/
theorem decodeStrict_grammar_samples :
    Grammatical .standard [] namedDatagram namedRequest ∧
      Fault .standard [] faultyDatagram (.codec (.invalidLength 4 3)) := by
  have haccepted : decodeStrict .standard [] namedDatagram = .ok namedRequest := by
    decide +kernel
  have hrefused : decodeStrict .standard [] faultyDatagram
      = .error (.codec (.invalidLength 4 3)) := by
    decide +kernel
  have hbuilt := Dictionary.builtFrom_standard
  exact ⟨((decodeStrict_grammar hbuilt [] namedDatagram).1 _).1 haccepted,
    ((decodeStrict_grammar hbuilt [] faultyDatagram).2.1 _).1 hrefused⟩

end Radius.Packet
