import Radius.Packet.Authenticity
import Radius.Proofs.Packet.Reencoding

/-!
# `Radius.Proofs.Packet.Authenticity`: what the check of a reply decides

`isAuthentic` never looks at the bytes that arrived. It writes the packet again and digests what
it wrote. `Answers` is the check that the protocol asks for, over the bytes that arrived: the
code is one that can be checked, and the bytes 4 to 19 are the digest of the others, with the
seed and the secret of the request.

`isAuthentic_iff` proves the two equal for the packets that some bytes were read as, if no
hidden password is among their records (`Plain`). A hidden password can be padded further than it
is written again, so its packet may be written as other bytes. The length that the digest covers
is the one that the bytes have, in place of the one that they declare, and a packet that is too
long to be written is not authentic.
-/

set_option autoImplicit false

namespace Radius.Packet

section
variable [Digest]

/-- No record among these bytes holds a hidden password. -/
def Plain (dictionary : Dictionary) (body : List UInt8) : Prop :=
  ∀ records, Framed records body →
    ∀ record ∈ records, dictionary.codec record.type ≠ .userPassword

/-- The bytes have the code of a packet that can be checked, and carry the digest that the request
calls for. -/
def Answers (request : Packet) (bytes : List UInt8) : Prop :=
  Code.ofByte (bytes.getD 0 0) ∈ Code.checked ∧
    (Digest.hash (bytes.take 4
      ++ (Code.digestSeed request.authenticator (.ofByte (bytes.getD 0 0))).bytes
      ++ bytes.drop 20 ++ request.secret)).bytes = (bytes.drop 4).take 16

instance (request : Packet) (bytes : List UInt8) : Decidable (Answers request bytes) :=
  inferInstanceAs (Decidable (_ ∧ _))

variable {dictionary : Dictionary} {packet request other : Packet} {body : List UInt8}

/-- The check of the bytes, for a packet that is put together from its parts. -/
theorem answers_assembled_iff (authenticator : Block)
    (hcode : Code.ofByte packet.code.toByte = packet.code) :
    Answers request (packet.assembled authenticator body) ↔
      packet.code ∈ Code.checked ∧
        sealed (packet.headerBytes body.length)
          (packet.code.digestSeed request.authenticator) body request.secret
            = authenticator := by
  have hbyte : Code.ofByte ((packet.assembled authenticator body).getD 0 0) = packet.code := hcode
  have hfield : ((packet.assembled authenticator body).drop 4).take 16 = authenticator.bytes := by
    rw [drop_four_assembled, List.take_left' authenticator.length_bytes]
  rw [Answers, hbyte, hfield, take_four_assembled, drop_assembled, ← Block.ext_iff, sealed]

/-- A reply that was written answers every request that keys as it does. -/
theorem answers_of_wire {wire : List UInt8} (hcode : packet.code ∈ Code.replies)
    (hkey : packet.SameKey request) (h : packet.wire dictionary = .ok wire) :
    Answers request wire := by
  obtain ⟨records, body, authenticator, -, -, -, hfield, rfl⟩ := wire_eq_ok_iff.1 h
  have hwritten : packet.code.sealing ≠ .unsealable := by
    rw [Code.sealing_of_mem_replies hcode]
    decide
  rw [authenticatorField_of_mem_replies hcode, Except.ok.injEq] at hfield
  rw [answers_assembled_iff authenticator (Code.ofByte_toByte hwritten),
    Code.digestSeed_of_mem_replies hcode, ← hkey.1, ← hkey.2]
  exact ⟨List.mem_cons_of_mem _ hcode, hfield⟩

/-- A packet is authentic exactly if its code can be checked, it can be written, and what is written
has the digest that it carries, with the key of the request. -/
theorem isAuthentic_iff_exists_wire :
    packet.isAuthentic dictionary request = true ↔
      packet.code ∈ Code.checked ∧ ∃ wire, packet.wire dictionary = .ok wire ∧
        sealed (wire.take 4) (packet.code.digestSeed request.authenticator) (wire.drop 20)
          request.secret = packet.authenticator := by
  unfold isAuthentic
  split
  next hseed =>
    -- No code that can be checked is without a seed.
    have hcode : packet.code ∉ Code.checked := by
      intro hchecked
      rw [Code.checkSeed?_eq_some_iff.2 ⟨hchecked, rfl⟩] at hseed
      cases hseed
    simp [hcode]
  next seed hseed =>
    obtain ⟨hchecked, rfl⟩ := Code.checkSeed?_eq_some_iff.1 hseed
    cases packet.wire dictionary with
    | error cause => simp
    | ok wire => simp [hchecked]

/-- The check sees the key of a request, and nothing else of it. -/
theorem isAuthentic_congr (h : request.SameKey other) :
    packet.isAuthentic dictionary request = packet.isAuthentic dictionary other := by
  unfold isAuthentic
  rw [h.1, h.2]

/-- The check of a packet, in terms of the bytes of its records. -/
theorem isAuthentic_iff_of_records (hrecords : packet.records dictionary = .ok body) :
    packet.isAuthentic dictionary request = true ↔
      20 + body.length ≤ maxLength ∧ packet.code ∈ Code.checked ∧
        sealed (packet.headerBytes body.length)
          (packet.code.digestSeed request.authenticator) body request.secret
            = packet.authenticator := by
  rw [isAuthentic_iff_exists_wire]
  by_cases hmost : 20 + body.length ≤ maxLength
  · -- A packet that can be checked has an authenticator on the wire, which the check leaves out.
    have hwire (hchecked : packet.code ∈ Code.checked) : ∃ authenticator,
        packet.wire dictionary = .ok (packet.assembled authenticator body) := by
      obtain ⟨authenticator, hfield⟩ := exists_authenticatorField_of_mem_computed
        (packet.headerBytes body.length) body (Code.mem_computed_of_mem_checked hchecked)
      exact ⟨authenticator, by rw [wire_of_records hrecords hmost, hfield]; rfl⟩
    constructor
    · rintro ⟨hchecked, wire, hwritten, hdigest⟩
      obtain ⟨authenticator, hassembled⟩ := hwire hchecked
      rw [hassembled] at hwritten
      cases hwritten
      rw [take_four_assembled, drop_assembled] at hdigest
      exact ⟨hmost, hchecked, hdigest⟩
    · rintro ⟨-, hchecked, hdigest⟩
      obtain ⟨authenticator, hassembled⟩ := hwire hchecked
      refine ⟨hchecked, _, hassembled, ?_⟩
      rw [take_four_assembled, drop_assembled]
      exact hdigest
  · rw [wire_of_long hrecords (Nat.not_le.mp hmost)]
    simp [hmost]

/-! ### A packet that was read -/

variable {secret data : List UInt8} {reply : Packet}

/-- A packet that was read from plain records is written as the same records again. -/
theorem records_of_plain (hstock : ∀ type, (dictionary.codec type).Stock)
    (hlong : 20 ≤ data.length) (h : readBody dictionary secret data = .ok reply)
    (hplain : Plain dictionary (data.drop 20)) :
    reply.records dictionary = .ok (data.drop 20) := by
  obtain ⟨records, body, hframed, hrecords, -, hsame⟩ := exists_records_of_readBody hstock hlong h
  have hcanonical : ∀ record ∈ records,
      (dictionary.codec record.type).Canonical reply record.value := by
    intro record hrecord hpassword
    exact absurd hpassword (hplain records hframed record hrecord)
  rw [hrecords, hsame.2 hcanonical]

/-- The records of a packet that was read are plain exactly if its attributes are. -/
theorem plain_iff_of_readBody (hstock : ∀ type, (dictionary.codec type).Stock)
    (hlong : 20 ≤ data.length) (h : readBody dictionary secret data = .ok reply) :
    Plain dictionary (data.drop 20) ↔
      ∀ attr ∈ reply.attributes, dictionary.codec attr.type ≠ .userPassword := by
  rw [readBody_eq hlong, readRecords_eq_ok_iff hstock] at h
  obtain ⟨records, attributes, hframed, hreads, rfl⟩ := h
  have hrow : Plain dictionary (data.drop 20) ↔
      ∀ record ∈ records, dictionary.codec record.type ≠ .userPassword := by
    constructor
    · exact fun hplain => hplain records hframed
    · intro hrecords others hothers
      rw [hothers.unique hframed]
      exact hrecords
  rw [hrow]
  show _ ↔ ∀ attr ∈ attributes, _
  clear hframed hrow
  induction hreads with
  | nil => simp
  | cons hread hreads ih => rw [List.forall_mem_cons, List.forall_mem_cons, ih, hread.1]

/-- What the check of a packet decides about the bytes that it was read from. -/
theorem isAuthentic_iff (hstock : ∀ type, (dictionary.codec type).Stock)
    (hlong : 20 ≤ data.length) (h : readBody dictionary secret data = .ok reply)
    (hplain : Plain dictionary (data.drop 20)) :
    reply.isAuthentic dictionary request = true ↔
      data.length ≤ maxLength ∧ Answers request (withLength data) := by
  have hcode : Code.ofByte reply.code.toByte = reply.code := by
    rw [(header_of_readBody hlong h).1, Code.toByte_ofByte]
  have hlength : 20 + (data.drop 20).length = data.length := by
    rw [List.length_drop]
    omega
  rw [isAuthentic_iff_of_records (records_of_plain hstock hlong h hplain), hlength,
    ← assembled_of_readBody hlong h, answers_assembled_iff _ hcode]

end

end Radius.Packet
