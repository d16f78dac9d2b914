import Radius.Digest.Md5
import Radius.Packet.Authenticity
import Radius.Proofs.Packet.Run
import Radius.Proofs.Packet.Slices

/-!
# `Radius.Proofs.Packet.Seed`: what the stored authenticator has to do with what is sent

The authenticator that a packet holds can reach the wire in three ways: as it is, as the seed of a
digest, and as a part of the key of a hidden password. Three requests are sealed with a digest that
is seeded with zeros (`seed`), so what is sent depends on the stored authenticator through hidden
passwords only. Two of these requests keep the digest that they were sent with, and would otherwise
be sent as something else the second time.

* `wire_withAuthenticator`: such a request is written as the same bytes, or refused for the same
  cause, whatever authenticator it holds.
* `exists_authenticator_run_encode`: sending changes the authenticator and nothing else, however
  often it is done.
* `responseAuthenticator_of_mem_dynamic`: what `responseAuthenticator` forecasts is what is sent.

`encode_agrees_with_responseAuthenticator` puts these together.
-/

set_option autoImplicit false

namespace Radius.Packet

/-- What seeds the digest that a packet is sent with. -/
def seed (packet : Packet) : Block :=
  if packet.code ∈ Code.zeroSeeded then .zero else packet.authenticator

section
variable [Digest] {dictionary : Dictionary} {packet p q : Packet} {header body : List UInt8}

/-! ### The digest -/

/-- The field of a packet that carries a digest is filled in with this one. -/
theorem authenticatorField_of_mem_computed (h : packet.code ∈ Code.computed) :
    packet.authenticatorField header body
      = .ok (sealed header packet.seed body packet.secret) := by
  unfold authenticatorField seed
  rcases Code.mem_computed_iff.1 h with hzero | hown
  · rw [hzero, if_pos (Code.sealing_eq_zeroSeeded_iff.1 hzero)]
  · have hcode : packet.code ∉ Code.zeroSeeded := by
      rw [← Code.sealing_eq_zeroSeeded_iff, hown]
      decide
    rw [hown, if_neg hcode]

/-- A digest that is seeded with zeros does not depend on the stored authenticator. -/
theorem authenticatorField_withAuthenticator (hcode : packet.code ∈ Code.zeroSeeded)
    (other : Block) :
    ({ packet with authenticator := other } : Packet).authenticatorField header body
      = packet.authenticatorField header body := by
  have hcomputed : packet.code ∈ Code.computed :=
    Code.mem_computed_iff.2 (.inl (Code.sealing_eq_zeroSeeded_iff.2 hcode))
  have hother : ({ packet with authenticator := other } : Packet).code ∈ Code.computed := hcomputed
  rw [authenticatorField_of_mem_computed hother, authenticatorField_of_mem_computed hcomputed,
    seed, seed, if_pos hcode, if_pos hcode]

/-! ### The records -/

/-- A value is written alike with any two packets that key alike. -/
theorem encodeValue_congr {attr : Attribute} (hcodec : (dictionary.codec attr.type).Stock)
    (hkey : dictionary.codec attr.type = .userPassword → p.SameKey q) :
    encodeValue dictionary p attr = encodeValue dictionary q attr := by
  unfold encodeValue
  rw [hcodec.encode_congr hkey]

/-- So are the records of some attributes, with the same first fault. -/
theorem recordsOf_congr (hstock : ∀ type, (dictionary.codec type).Stock)
    {attributes : List Attribute}
    (hkey : ∀ attr ∈ attributes, dictionary.codec attr.type = .userPassword → p.SameKey q) :
    recordsOf dictionary p attributes = recordsOf dictionary q attributes := by
  induction attributes with
  | nil => rfl
  | cons attr rest ih =>
    obtain ⟨hattr, hrest⟩ := List.forall_mem_cons.1 hkey
    rw [recordsOf, recordsOf, encodeValue_congr (hstock _) hattr, ih hrest]

/-! ### The whole -/

/-- A request that is sealed without its authenticator, and hides no password with it, is written
alike with every authenticator. -/
theorem wire_withAuthenticator (hstock : ∀ type, (dictionary.codec type).Stock)
    (hcode : packet.code ∈ Code.zeroSeeded)
    (hplain : ∀ attr ∈ packet.attributes, dictionary.codec attr.type ≠ .userPassword)
    (other : Block) :
    ({ packet with authenticator := other } : Packet).wire dictionary
      = packet.wire dictionary := by
  have hrecords : ({ packet with authenticator := other } : Packet).records dictionary
      = packet.records dictionary :=
    recordsOf_congr hstock fun attr hattr hpassword => absurd hpassword (hplain attr hattr)
  have hheader : ∀ n, ({ packet with authenticator := other } : Packet).header n
      = packet.header n := fun _ => rfl
  unfold wire
  simp only [hrecords, hheader, authenticatorField_withAuthenticator hcode]

/-- The bytes that encoding answers are those of the packet. -/
theorem map_fst_encode (dictionary : Dictionary) (packet : Packet) :
    (packet.encode dictionary).map Prod.fst = packet.wire dictionary := by
  unfold encode
  cases packet.wire dictionary with
  | error cause => rfl
  | ok wire => rfl

omit [Digest] in
/-- Sending a packet changes its authenticator at most. -/
theorem exists_authenticator_sent (packet : Packet) (wire : List UInt8) :
    ∃ other, packet.sent wire = { packet with authenticator := other } := by
  unfold sent
  split
  · exact ⟨_, rfl⟩
  · exact ⟨packet.authenticator, rfl⟩

/-- Sending it any number of times changes no more, whether it can be sent or not. -/
theorem exists_authenticator_run_encode (dictionary : Dictionary) (packet : Packet) (n : Nat) :
    ∃ other, packet.run dictionary (List.replicate n .encode)
      = { packet with authenticator := other } := by
  induction n generalizing packet with
  | zero => exact ⟨packet.authenticator, rfl⟩
  | succ n ih =>
    rw [List.replicate_succ]
    show ∃ other, (Edit.encode.apply dictionary packet).run dictionary (List.replicate n .encode)
      = { packet with authenticator := other }
    -- One sending, and then the others from where it left the packet.
    have hstep : ∃ other, Edit.encode.apply dictionary packet
        = { packet with authenticator := other } := by
      show ∃ other, packet.settle ((packet.encode dictionary).map Prod.snd) = _
      unfold encode
      cases packet.wire dictionary with
      | error cause => exact ⟨packet.authenticator, rfl⟩
      | ok wire => exact exists_authenticator_sent packet wire
    obtain ⟨first, hfirst⟩ := hstep
    obtain ⟨last, hlast⟩ := ih { packet with authenticator := first }
    exact ⟨last, by rw [hfirst, hlast]⟩

/-! ### The forecast -/

/-- In an exchange that changes or ends a session, the authenticator that a packet would be sent
with is the one that it is sent with. It is refused for the same cause. -/
theorem responseAuthenticator_of_mem_dynamic (hcode : packet.code ∈ Code.dynamic) :
    packet.responseAuthenticator dictionary
      = (packet.wire dictionary).map fun wire => Block.ofBytes (wire.drop 4) := by
  unfold responseAuthenticator
  rw [if_pos (Code.isDynamic_iff.2 hcode)]
  cases hrecords : packet.records dictionary with
  | error cause =>
    rw [wire, hrecords]
    rfl
  | ok body =>
    dsimp only
    by_cases hmost : 20 + body.length ≤ maxLength
    · rw [header_eq_ok hmost, wire_of_records hrecords hmost]
      dsimp only
      cases packet.authenticatorField (packet.headerBytes body.length) body with
      | error cause => rfl
      | ok authenticator =>
        show _ = Except.ok (Block.ofBytes ((packet.assembled authenticator body).drop 4))
        rw [ofBytes_drop_four_assembled]
    · have hheader : packet.header body.length = .error (.packetTooLong (20 + body.length)) :=
        if_pos (Nat.not_le.mp hmost)
      rw [hheader, wire_of_long hrecords (Nat.not_le.mp hmost)]
      rfl

/-- For any other code nothing is forecast, whatever the attributes are. -/
theorem responseAuthenticator_of_not_mem_dynamic (hcode : packet.code ∉ Code.dynamic) :
    packet.responseAuthenticator dictionary = .error (.unknownCode packet.code.toByte) := by
  unfold responseAuthenticator
  rw [if_neg (mt Code.isDynamic_iff.1 hcode)]

/-- What the stored authenticator has to do with what is sent, and what `responseAuthenticator` with
either.

* A request that is sealed with zeros and hides no password is encoded to the same bytes, or refused
  for the same cause, whatever authenticator it holds. So it is however often it was encoded before.
* In an exchange that changes or ends a session, `responseAuthenticator` answers the bytes 4 to 19
  of what `encode` answers, and the same cause if there is one.
* Of a request of such an exchange that hides no password, it answers the same after encoding.
* For every other code it answers that the code is unknown, whatever the attributes are. -/
theorem encode_agrees_with_responseAuthenticator (hbuilt : dictionary.BuiltFrom Codec.Stock)
    (packet : Packet) :
    (packet.code ∈ Code.zeroSeeded →
      (∀ attr ∈ packet.attributes, dictionary.codec attr.type ≠ .userPassword) →
      (∀ other, (({ packet with authenticator := other } : Packet).encode dictionary).map Prod.fst
        = (packet.encode dictionary).map Prod.fst) ∧
      ∀ n, ((packet.run dictionary (List.replicate n .encode)).encode dictionary).map Prod.fst
        = (packet.encode dictionary).map Prod.fst) ∧
    (packet.code ∈ Code.dynamic →
      (∀ authenticator, packet.responseAuthenticator dictionary = .ok authenticator ↔
        ∃ wire kept, packet.encode dictionary = .ok (wire, kept) ∧
          slice? wire 4 20 = some authenticator.bytes) ∧
      ∀ cause, packet.responseAuthenticator dictionary = .error cause ↔
        packet.encode dictionary = .error cause) ∧
    (packet.code = .coaRequest ∨ packet.code = .disconnectRequest →
      (∀ attr ∈ packet.attributes, dictionary.codec attr.type ≠ .userPassword) →
      ∀ wire kept, packet.encode dictionary = .ok (wire, kept) →
        kept.responseAuthenticator dictionary = packet.responseAuthenticator dictionary) ∧
    (packet.code ∉ Code.dynamic →
      packet.responseAuthenticator dictionary = .error (.unknownCode packet.code.toByte)) := by
  refine ⟨?_, ?_, ?_, responseAuthenticator_of_not_mem_dynamic⟩
  · intro hcode hplain
    have hother : ∀ other,
        (({ packet with authenticator := other } : Packet).encode dictionary).map Prod.fst
          = (packet.encode dictionary).map Prod.fst := by
      intro other
      rw [map_fst_encode, map_fst_encode, wire_withAuthenticator hbuilt.stock hcode hplain]
    refine ⟨hother, fun n => ?_⟩
    obtain ⟨left, hleft⟩ := exists_authenticator_run_encode dictionary packet n
    rw [hleft, hother]
  · intro hcode
    rw [responseAuthenticator_of_mem_dynamic hcode]
    cases hwire : packet.wire dictionary with
    | error cause =>
      have hencode : packet.encode dictionary = .error cause := encode_eq_error_iff.2 hwire
      rw [hencode]
      simp [Except.map]
    | ok wire =>
      have hencode : packet.encode dictionary = .ok (wire, packet.sent wire) :=
        encode_eq_ok_iff.2 ⟨hwire, rfl⟩
      rw [hencode]
      simp [Except.map, slice?_authenticator hwire, Block.ext_iff]
  · intro hcode hplain wire kept hencode
    have hdynamic : packet.code ∈ Code.dynamic := by
      rcases hcode with h | h <;> rw [h] <;> decide
    have hzero : packet.code ∈ Code.zeroSeeded := by
      rcases hcode with h | h <;> rw [h] <;> decide
    -- The packet that is kept is the same request with the authenticator that was sent.
    obtain ⟨-, hkept⟩ := encode_eq_ok_iff.1 hencode
    obtain ⟨other, hsent⟩ := exists_authenticator_sent packet wire
    have hagain : kept.code ∈ Code.dynamic := by
      rw [hkept, hsent]
      exact hdynamic
    rw [responseAuthenticator_of_mem_dynamic hagain, responseAuthenticator_of_mem_dynamic hdynamic,
      hkept, hsent, wire_withAuthenticator hbuilt.stock hzero hplain]

end

/-- A request to change the time that is left to a session. -/
def timeoutChange : Packet where
  code := .coaRequest
  identifier := 9
  authenticator := .zero
  secret := [120, 121]
  attributes := [⟨27, .integer 600⟩]

/-- An answer that cannot be written, because its port is text. -/
def misfitAnswer : Packet where
  code := .accessAccept
  identifier := 9
  authenticator := .zero
  secret := [120, 121]
  attributes := [⟨5, .text "two"⟩]

/-- The request is sent as the same bytes after it was sent twice, and its forecast is the same
before and after. Nothing is forecast for the answer. -/
theorem encode_agrees_with_responseAuthenticator_timeoutChange :
    ∃ wire kept authenticator,
      timeoutChange.encode .standard = .ok (wire, kept) ∧
      timeoutChange.responseAuthenticator .standard = .ok authenticator ∧
      slice? wire 4 20 = some authenticator.bytes ∧
      kept.responseAuthenticator .standard = .ok authenticator ∧
      ((timeoutChange.run .standard [.encode, .encode]).encode .standard).map Prod.fst
        = .ok wire ∧
      misfitAnswer.encode .standard = .error (.codec (.unexpectedValue .integer .text)) ∧
      misfitAnswer.responseAuthenticator .standard = .error (.unknownCode 2) := by
  have hbuilt := Dictionary.builtFrom_standard
  obtain ⟨hsame, hforecast, hafter, -⟩ :=
    encode_agrees_with_responseAuthenticator hbuilt timeoutChange
  obtain ⟨-, -, -, hunknown⟩ := encode_agrees_with_responseAuthenticator hbuilt misfitAnswer
  have hplain : ∀ attr ∈ timeoutChange.attributes,
      Dictionary.standard.codec attr.type ≠ .userPassword := by
    intro attr hattr
    rw [List.mem_singleton.1 hattr]
    intro hcodec
    have hkind := congrArg Codec.kind hcodec
    exact absurd hkind (by decide +kernel)
  have hrecords : timeoutChange.records .standard = .ok [27, 6, 0, 0, 2, 88] := by
    decide +kernel
  obtain ⟨authenticator, kept, hencode⟩ :=
    exists_encode_of_mem_computed hrecords (by decide) (by decide)
  have hwire := (encode_eq_ok_iff.1 hencode).1
  have hanswer : timeoutChange.responseAuthenticator .standard = .ok authenticator := by
    refine ((hforecast (by decide)).1 _).2 ⟨_, kept, hencode, ?_⟩
    rw [slice?_authenticator hwire, ofBytes_drop_four_assembled]
  refine ⟨_, kept, authenticator, hencode, hanswer, ?_, ?_, ?_, by decide +kernel,
    hunknown (by decide)⟩
  · rw [slice?_authenticator hwire, ofBytes_drop_four_assembled]
  · rw [hafter (.inl rfl) hplain _ _ hencode, hanswer]
  · have htwice := (hsame (by decide) hplain).2 2
    rw [hencode] at htwice
    exact htwice

end Radius.Packet
