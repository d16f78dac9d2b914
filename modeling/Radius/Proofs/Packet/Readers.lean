import Radius.Digest.Md5
import Radius.Proofs.Packet.Layout

/-!
# `Radius.Proofs.Packet.Readers`: the two readers side by side

Both readers check that a datagram has room for a header and declares a length that a packet can
have. From there on `decodeStrict` looks at the bytes up to that length, and `decode` looks at all
of them and never at the length again.

* `decodeStrict_eq_decode_take`: the strict reader is the lenient one on the declared part of a
  datagram, so what follows this part makes no difference (`decodeStrict_append`).
* `decode_of_sameButLength`: the lenient reader makes the same of two datagrams that differ in the
  declared length only. The records do not see the raw bytes that the packet holds while they are
  read (`readRecords_readFrom`).
* `decode_eq_map_decodeStrict`: the lenient reader is the strict one on the datagram with its own
  length in the length field.

`readers_related` puts these together, with the faults that both readers find.
-/

set_option autoImplicit false

namespace Radius.Packet

/-- The datagrams differ at most in the bytes 2 and 3, which declare a length. -/
structure SameButLength (data other : List UInt8) : Prop where
  length_eq : other.length = data.length
  front : other.take 2 = data.take 2
  rest : other.drop 4 = data.drop 4

/-- The packet as it would be read from other bytes. -/
def readFrom (packet : Packet) (raw : List UInt8) : Packet :=
  { packet with raw := some raw }

section
variable {dictionary : Dictionary} {secret data other : List UInt8}

/-! ### The header -/

/-- Without room for a header a datagram is refused. -/
theorem decode_of_short (h : data.length < 20) :
    decode dictionary secret data = .error (.tooShort data.length) := by
  rcases decode_cases dictionary secret data with ⟨-, hrefused⟩ | ⟨hlong, -⟩ | ⟨hlong, -⟩
  · exact hrefused
  · omega
  · omega

/-- The strict reader refuses what has no room for a header, as the lenient one does. -/
theorem decodeStrict_of_short (h : data.length < 20) :
    decodeStrict dictionary secret data = .error (.tooShort data.length) := by
  rcases decodeStrict_cases dictionary secret data with
    ⟨-, hrefused⟩ | ⟨hlong, -⟩ | ⟨hleast, -, hwhole, -⟩
  · exact hrefused
  · omega
  · omega

/-- A datagram that has a header is refused if no packet can have the length that it declares. -/
theorem decode_of_out_of_range (hlong : 20 ≤ data.length)
    (hout : lengthField data < 20 ∨ 4095 < lengthField data) :
    decode dictionary secret data = .error (.invalidLength (lengthField data)) := by
  rcases decode_cases dictionary secret data with
    ⟨hshort, -⟩ | ⟨-, -, hrefused⟩ | ⟨-, hleast, hmost, -⟩
  · omega
  · exact hrefused
  · omega

/-- The strict reader refuses it as well if it ends before that length. -/
theorem decodeStrict_of_out_of_range (hlong : 20 ≤ data.length)
    (hout : lengthField data < 20 ∨ 4095 < lengthField data ∨ data.length < lengthField data) :
    decodeStrict dictionary secret data = .error (.invalidLength (lengthField data)) := by
  rcases decodeStrict_cases dictionary secret data with
    ⟨hshort, -⟩ | ⟨-, -, hrefused⟩ | ⟨hleast, hmost, hwhole, -⟩
  · omega
  · exact hrefused
  · omega

/-- A length that a packet can have makes the lenient reader go on to the end. -/
theorem decode_of_in_range (hlong : 20 ≤ data.length) (hleast : 20 ≤ lengthField data)
    (hmost : lengthField data ≤ 4095) :
    decode dictionary secret data = readBody dictionary secret data := by
  rcases decode_cases dictionary secret data with ⟨hshort, -⟩ | ⟨-, hout, -⟩ | ⟨-, -, -, hread⟩
  · omega
  · omega
  · exact hread

/-- The length field stays where it is if bytes follow a header. -/
theorem lengthField_append (h : 20 ≤ data.length) (padding : List UInt8) :
    lengthField (data ++ padding) = lengthField data := by
  have htake : (data ++ padding).take data.length = data := List.take_left
  rw [← lengthField_take (n := data.length) (by omega), htake]

/-- Rewriting the length field leaves the length as it was. -/
theorem length_withLength (h : 20 ≤ data.length) : (withLength data).length = data.length := by
  simp only [withLength, List.length_append, List.length_take, length_bigEndian, List.length_drop]
  omega

/-- Only the length field is rewritten. -/
theorem sameButLength_withLength (h : 20 ≤ data.length) : SameButLength data (withLength data) where
  length_eq := length_withLength h
  front := by
    have hfront : (data.take 2).length = 2 := by rw [List.length_take]; omega
    rw [withLength, List.append_assoc]
    exact List.take_left' hfront
  rest := by
    have hfront : (data.take 2 ++ bigEndian 2 data.length).length = 4 := by
      rw [List.length_append, List.length_take, length_bigEndian]
      omega
    rw [withLength]
    exact List.drop_left' hfront

/-- The length that is written into the field is the one that it declares. -/
theorem lengthField_withLength (h : 20 ≤ data.length) (hmost : data.length ≤ 4095) :
    lengthField (withLength data) = data.length := by
  obtain ⟨a, b, c, d, rest, rfl, -⟩ := exists_four_bytes h
  exact bigEndianValue_length hmost

/-- Each is the other with another length. -/
theorem SameButLength.symm (h : SameButLength data other) : SameButLength other data :=
  ⟨h.length_eq.symm, h.front.symm, h.rest.symm⟩

/-! ### The declared part -/

/-- The strict reader is the lenient one on the part of a datagram that it declares. -/
theorem decodeStrict_eq_decode_take (hleast : 20 ≤ lengthField data)
    (hmost : lengthField data ≤ 4095) (hwhole : lengthField data ≤ data.length) :
    decodeStrict dictionary secret data
      = decode dictionary secret (data.take (lengthField data)) := by
  obtain ⟨hlength, hfield⟩ := lengthField_take_lengthField hleast hwhole
  rcases decodeStrict_cases dictionary secret data with
    ⟨hshort, -⟩ | ⟨-, hout, -⟩ | ⟨-, -, -, hread⟩
  · omega
  · omega
  · rw [hread, decode_of_in_range (by omega) (by omega) (by omega)]

/-- What follows the declared part makes no difference to the strict reader. -/
theorem decodeStrict_append (h : 20 ≤ data.length) (hwhole : lengthField data ≤ data.length)
    (padding : List UInt8) :
    decodeStrict dictionary secret (data ++ padding) = decodeStrict dictionary secret data := by
  have hfield := lengthField_append h padding
  have htake : (data ++ padding).take (lengthField data) = data.take (lengthField data) :=
    List.take_append_of_le_length hwhole
  have hlong : data.length ≤ (data ++ padding).length := by
    rw [List.length_append]
    omega
  by_cases hin : 20 ≤ lengthField data ∧ lengthField data ≤ 4095
  · rw [decodeStrict_eq_decode_take (by omega) (by omega) (by omega), hfield, htake,
      decodeStrict_eq_decode_take hin.1 hin.2 hwhole]
  · -- A length that no packet can have is refused, whatever follows.
    rw [decodeStrict_of_out_of_range (by omega) (by omega), hfield,
      decodeStrict_of_out_of_range h (by omega)]

/-! ### The length field -/

variable [Digest]

/-- The records are read alike, whatever bytes the packet says that it was read from. -/
theorem readRecords_readFrom (hstock : ∀ type, (dictionary.codec type).Stock) (packet : Packet)
    (raw bytes : List UInt8) :
    readRecords dictionary (packet.readFrom raw) bytes
      = (readRecords dictionary packet bytes).map fun q => q.readFrom raw := by
  -- No codec sees the raw bytes of the packet.
  have hdecode : ∀ (type : UInt8) (packet : Packet),
      (dictionary.codec type).decode (packet.readFrom raw)
        = (dictionary.codec type).decode packet := fun type packet =>
    (hstock type).decode_congr fun _ => ⟨rfl, rfl⟩
  fun_induction readRecords dictionary packet bytes with
  | case1 packet =>
    rw [readRecords]
    rfl
  | case2 packet byte =>
    rw [readRecords]
    rfl
  | case3 packet type length rest houtside =>
    rw [readRecords, if_pos houtside]
    rfl
  | case4 packet type length rest hinside cause hcause =>
    rw [readRecords, if_neg hinside, hdecode, hcause]
    rfl
  | case5 packet type length rest hinside value hvalue ih =>
    rw [readRecords, if_neg hinside, hdecode, hvalue]
    exact ih

/-- The bodies of two datagrams are read alike if they differ in the length field only. -/
theorem readBody_of_sameButLength (hstock : ∀ type, (dictionary.codec type).Stock)
    (hlong : 20 ≤ data.length) (h : SameButLength data other) :
    readBody dictionary secret other
      = (readBody dictionary secret data).map fun q => q.readFrom other := by
  have hlength := h.length_eq
  have hlong' : 20 ≤ other.length := by omega
  rw [readBody_eq hlong, readBody_eq hlong']
  obtain ⟨a, b, c, d, rest, rfl, -⟩ := exists_four_bytes hlong
  obtain ⟨a', b', c', d', rest', rfl, -⟩ := exists_four_bytes hlong'
  have hfront : [a', b'] = [a, b] := h.front
  have hrest : rest' = rest := h.rest
  cases hfront
  cases hrest
  -- Both headers announce one packet, but for the bytes that it is read from.
  show readRecords dictionary ((ofHeader secret (a :: b :: c :: d :: rest)).readFrom
    (a :: b :: c' :: d' :: rest)) (rest.drop 16) = _
  exact readRecords_readFrom hstock _ _ _

/-- The lenient reader makes the same of two datagrams that declare different lengths, as long as a
packet can have both. -/
theorem decode_of_sameButLength (hstock : ∀ type, (dictionary.codec type).Stock)
    (h : SameButLength data other)
    (hdata : 20 ≤ lengthField data ∧ lengthField data ≤ 4095)
    (hother : 20 ≤ lengthField other ∧ lengthField other ≤ 4095) :
    decode dictionary secret other
      = (decode dictionary secret data).map fun q => q.readFrom other := by
  have hlength := h.length_eq
  by_cases hlong : 20 ≤ data.length
  · rw [decode_of_in_range hlong hdata.1 hdata.2,
      decode_of_in_range (by omega) hother.1 hother.2, readBody_of_sameButLength hstock hlong h]
  · rw [decode_of_short (by omega), decode_of_short (by omega), hlength]
    rfl

/-- The lenient reader is the strict one on the datagram with its own length in the length field. -/
theorem decode_eq_map_decodeStrict (hstock : ∀ type, (dictionary.codec type).Stock)
    (hlong : 20 ≤ data.length) (hmost : data.length ≤ 4095)
    (hdata : 20 ≤ lengthField data ∧ lengthField data ≤ 4095) :
    decode dictionary secret data
      = (decodeStrict dictionary secret (withLength data)).map fun q => q.readFrom data := by
  have hfield := lengthField_withLength hlong hmost
  rw [decodeStrict_eq_decode (by rw [hfield, length_withLength hlong])]
  exact decode_of_sameButLength hstock (sameButLength_withLength hlong).symm (by omega) hdata

omit [Digest] in
/-- A datagram that has no room for a header is refused with and without its own length in it. -/
theorem decodeStrict_withLength_of_short (h : data.length < 20) :
    decodeStrict dictionary secret (withLength data)
      = .error (.tooShort (withLength data).length) := by
  refine decodeStrict_of_short ?_
  simp only [withLength, List.length_append, List.length_take, length_bigEndian, List.length_drop]
  omega

/-- How the two readers are related, whatever the bytes.

* Both refuse a datagram that has no room for a header, and one that declares a length that no
  packet can have, for the same cause.
* Otherwise the strict reader refuses a datagram that ends before its declared length, and is the
  lenient reader on the declared part if there is one. Nothing that follows changes what it makes of
  the datagram, and the two agree if nothing does.
* The lenient reader makes the same of a datagram whatever length this declares, if a packet can
  have the length. Only the bytes are others that the packet is read from.
* So it accepts a datagram that is not too long if and only if the strict reader accepts it with its
  own length in place of the declared one, as the same packet. -/
theorem readers_related (hbuilt : dictionary.BuiltFrom Codec.Stock) (secret data : List UInt8) :
    (data.length < 20 →
      decode dictionary secret data = .error (.tooShort data.length) ∧
      decodeStrict dictionary secret data = .error (.tooShort data.length)) ∧
    (20 ≤ data.length → lengthField data < 20 ∨ 4095 < lengthField data →
      decode dictionary secret data = .error (.invalidLength (lengthField data)) ∧
      decodeStrict dictionary secret data = .error (.invalidLength (lengthField data))) ∧
    (20 ≤ data.length → 20 ≤ lengthField data → lengthField data ≤ 4095 →
      (data.length < lengthField data →
        decodeStrict dictionary secret data = .error (.invalidLength (lengthField data))) ∧
      (lengthField data ≤ data.length →
        decodeStrict dictionary secret data
          = decode dictionary secret (data.take (lengthField data)))) ∧
    (20 ≤ data.length → lengthField data ≤ data.length → ∀ padding,
      decodeStrict dictionary secret (data ++ padding) = decodeStrict dictionary secret data) ∧
    (lengthField data = data.length →
      decodeStrict dictionary secret data = decode dictionary secret data) ∧
    (∀ other, SameButLength data other →
      20 ≤ lengthField data ∧ lengthField data ≤ 4095 →
      20 ≤ lengthField other ∧ lengthField other ≤ 4095 →
      decode dictionary secret other
        = (decode dictionary secret data).map fun q => q.readFrom other) ∧
    (data.length ≤ 4095 → 20 ≤ lengthField data ∧ lengthField data ≤ 4095 →
      ∀ q, decode dictionary secret data = .ok q ↔
        ∃ read, decodeStrict dictionary secret (withLength data) = .ok read ∧
          q = read.readFrom data) := by
  have hstock := hbuilt.stock
  refine ⟨?_, ?_, ?_, decodeStrict_append, decodeStrict_eq_decode,
    fun _ h hdata hother => decode_of_sameButLength hstock h hdata hother, ?_⟩
  · intro hshort
    exact ⟨decode_of_short hshort, decodeStrict_of_short hshort⟩
  · intro hlong hout
    exact ⟨decode_of_out_of_range hlong hout, decodeStrict_of_out_of_range hlong (by omega)⟩
  · intro hlong hleast hmost
    exact ⟨fun hcut => decodeStrict_of_out_of_range hlong (.inr (.inr hcut)),
      decodeStrict_eq_decode_take hleast hmost⟩
  · intro hmost hdata q
    by_cases hlong : 20 ≤ data.length
    · rw [decode_eq_map_decodeStrict hstock hlong hmost hdata]
      cases decodeStrict dictionary secret (withLength data) with
      | error cause => simp [Except.map]
      | ok read => simp [Except.map, eq_comm]
    · -- Without a header there is nothing to rewrite, and both readers refuse.
      rw [decode_of_short (by omega), decodeStrict_withLength_of_short (by omega)]
      simp

end

/-- An answer that declares no attributes, with the record of a port after its end. -/
def portAfterEnd : List UInt8 :=
  [2, 9, 0, 20] ++ List.replicate 16 0 ++ [5, 6, 0, 0, 0, 3]

/-- The packet of the answer that a reader finds which looks past the declared end. -/
def portRead (raw : List UInt8) : Packet where
  code := .accessAccept
  identifier := 9
  authenticator := .zero
  secret := [120, 121]
  attributes := [⟨5, .integer 3⟩]
  raw := some raw

/-- The strict reader takes the record for padding, and it may as well be absent or be longer. The
lenient reader finds the port, and so does the strict one if the length is put right. Both refuse
the answer if it declares more than a packet can have. -/
theorem readers_related_portAfterEnd :
    decodeStrict .standard [120, 121] portAfterEnd
        = decode .standard [120, 121] (portAfterEnd.take 20) ∧
      decodeStrict .standard [120, 121] (portAfterEnd ++ [7])
        = decodeStrict .standard [120, 121] portAfterEnd ∧
      decode .standard [120, 121] portAfterEnd = .ok (portRead portAfterEnd) ∧
      (∃ read, decodeStrict .standard [120, 121] (withLength portAfterEnd) = .ok read ∧
        portRead portAfterEnd = read.readFrom portAfterEnd) ∧
      decode .standard [120, 121] ([2, 9, 0, 21] ++ portAfterEnd.drop 4)
        = .ok (portRead ([2, 9, 0, 21] ++ portAfterEnd.drop 4)) ∧
      decode .standard [120, 121] ([2, 9, 16, 0] ++ portAfterEnd.drop 4)
        = .error (.invalidLength 4096) ∧
      decodeStrict .standard [120, 121] ([2, 9, 16, 0] ++ portAfterEnd.drop 4)
        = .error (.invalidLength 4096) := by
  have hbuilt := Dictionary.builtFrom_standard
  obtain ⟨-, -, hstrict, hpadding, -, hlenient, hrewritten⟩ :=
    readers_related hbuilt [120, 121] portAfterEnd
  obtain ⟨-, hout, -⟩ :=
    readers_related hbuilt [120, 121] ([2, 9, 16, 0] ++ portAfterEnd.drop 4)
  have hread : decode .standard [120, 121] portAfterEnd = .ok (portRead portAfterEnd) := by
    decide +kernel
  have hother := hlenient ([2, 9, 0, 21] ++ portAfterEnd.drop 4)
    ⟨by decide, by decide, by decide⟩ (by decide) (by decide)
  refine ⟨(hstrict (by decide) (by decide) (by decide)).2 (by decide),
    hpadding (by decide) (by decide) _, hread, ?_, ?_, hout (by decide) (by decide)⟩
  · exact (hrewritten (by decide) (by decide) _).1 hread
  · rw [hother, hread]
    rfl

end Radius.Packet
