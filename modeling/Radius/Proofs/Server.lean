import Radius.Digest.Md5
import Radius.Packet.Fresh
import Radius.Proofs.Packet.Authenticity
import Radius.Proofs.Packet.RoundTrip
import Radius.Server

/-!
# `Radius.Proofs.Server`: which replies a server takes

`verifyReply` reads a datagram, and checks the packet that it read by writing it again. Two
theorems say what comes of it, for every hash function and for every dictionary of the codecs of
the library:

* `verifyReply_eq`: as long as no hidden password is in the datagram, the server takes it exactly
  if its bytes answer the request (`Packet.Answers`). With `decodeStrict` these are the bytes of
  the declared length, with `decode` all of them with their own length in the header.
* `verifyReply_of_response`: a reply that was made for a request with the same secret and sent is
  taken, and holds the attributes that were put into it. The seed of its digest is the
  authenticator of the request as it was sent. Both ends know it from the bytes 4 to 19 of the
  request: the sender because it carries its own authenticator, or keeps the digest that it sent
  (`key_sent`), the peer because it read it (`key_of_readers`).
-/

set_option autoImplicit false

namespace Radius.Server

open Radius.Packet

section
variable [Digest] {server : Server} {request reply : Packet} {data : List UInt8}

/-! ### The bytes decide -/

/-- A server refuses what it cannot read, and reports nothing. -/
theorem verifyReply_of_refusal {cause : PacketError}
    (h : server.reader server.dictionary request.secret data = .error cause) :
    server.verifyReply data request = (.error (.packet cause), []) := by
  unfold verifyReply
  rw [h]

/-- A server that reads a packet takes it exactly if the check of the packet succeeds. -/
theorem verifyReply_of_reader
    (h : server.reader server.dictionary request.secret data = .ok reply) :
    (server.verifyReply data request).1
      = if reply.isAuthentic server.dictionary request then .ok reply
        else .error (.notAuthentic reply.identifier) := by
  unfold verifyReply
  rw [h]
  by_cases hauthentic : reply.isAuthentic server.dictionary request = true
  · simp only [hauthentic, if_true]
  · simp only [if_neg hauthentic]

/-- The same for the bytes that the packet was read from, if no hidden password is in them. -/
theorem verifyReply_of_readBody {part : List UInt8}
    (hstock : ∀ type, (server.dictionary.codec type).Stock) (hlong : 20 ≤ part.length)
    (hreader : server.reader server.dictionary request.secret data = .ok reply)
    (hbody : readBody server.dictionary request.secret part = .ok reply)
    (hplain : Plain server.dictionary (part.drop 20)) :
    (server.verifyReply data request).1
      = if part.length ≤ maxLength ∧ Answers request (withLength part) then .ok reply
        else .error (.notAuthentic (part.getD 1 0)) := by
  rw [verifyReply_of_reader hreader, (header_of_readBody hlong hbody).2]
  simp only [isAuthentic_iff hstock hlong hbody hplain]

/-- A server takes a datagram without hidden passwords exactly if its bytes answer the request.

For `decodeStrict` these are the bytes of the declared length. For `decode` these are all bytes,
with their length in the place of the one that they declare, and more bytes than a packet can have
are never taken. Otherwise the error names the identifier of the datagram. -/
theorem verifyReply_eq (hbuilt : server.dictionary.BuiltFrom Codec.Stock) :
    (server.reader = decodeStrict →
      decodeStrict server.dictionary request.secret data = .ok reply →
      Plain server.dictionary ((data.take (lengthField data)).drop 20) →
      (server.verifyReply data request).1
        = if Answers request (data.take (lengthField data)) then .ok reply
          else .error (.notAuthentic (data.getD 1 0))) ∧
    (server.reader = decode →
      decode server.dictionary request.secret data = .ok reply →
      Plain server.dictionary (data.drop 20) →
      (server.verifyReply data request).1
        = if data.length ≤ 4095 ∧ Answers request (withLength data) then .ok reply
          else .error (.notAuthentic (data.getD 1 0))) := by
  constructor
  · intro hreader h hplain
    obtain ⟨hleast, hmost, hwhole, hbody⟩ := decodeStrict_eq_ok_iff.1 h
    obtain ⟨hlength, hfield⟩ := lengthField_take_lengthField hleast hwhole
    rw [← hreader] at h
    rw [verifyReply_of_readBody hbuilt.stock (by omega) h hbody hplain,
      withLength_eq_self (by omega) (by omega), getD_take (by omega)]
    have hfits : (data.take (lengthField data)).length ≤ maxLength := by omega
    simp only [hfits, true_and]
  · intro hreader h hplain
    obtain ⟨hlong, -, -, hbody⟩ := decode_eq_ok_iff.1 h
    rw [← hreader] at h
    exact verifyReply_of_readBody hbuilt.stock hlong h hbody hplain

end

/-- A request to change a session, before it is sent. -/
def sampleChange : Packet where
  code := .coaRequest
  identifier := 9
  authenticator := .zero
  secret := [120, 121, 122, 122, 121]
  attributes := [⟨27, .integer 600⟩]

/-- The bytes of the request, with their digest under MD5. -/
def changeWire : List UInt8 := [
  43, 9, 0, 26, 99, 29, 49, 148, 199, 228, 246, 69, 49, 48, 93, 208, 68, 156, 29, 42,
  27, 6, 0, 0, 2, 88]

/-- The request as its sender keeps it, with the digest as its authenticator. -/
def sentChange : Packet :=
  sampleChange.sent changeWire

/-- The bytes of a reply to the request. -/
def changeAnswer : List UInt8 := [
  44, 9, 0, 32, 57, 81, 146, 45, 190, 13, 114, 91, 187, 64, 1, 101, 71, 127, 248, 152,
  8, 6, 10, 0, 0, 1, 27, 6, 0, 0, 2, 88]

/-- The reply as it is read from some bytes that carry it. -/
def acknowledgement (bytes : List UInt8) : Packet where
  code := .coaAck
  identifier := 9
  authenticator := Block.ofBytes (changeAnswer.drop 4)
  secret := sampleChange.secret
  raw := some bytes
  attributes := [⟨8, .address ⟨10, 0, 0, 1⟩⟩, ⟨27, .integer 600⟩]

/-- A server with the standard dictionary. -/
def sampleServer (reader : Reader) : Server where
  dictionary := .standard
  secret := []
  reader

/-- The dictionary of the server comes about by registrations. -/
theorem builtFrom_sampleServer (reader : Reader) :
    (sampleServer reader).dictionary.BuiltFrom Codec.Stock :=
  Dictionary.builtFrom_standard

/-- The reply is taken by a server with `decodeStrict` although padding follows it, and by one with
`decode` although it declares another length. -/
theorem verifyReply_eq_change :
    ((sampleServer decodeStrict).verifyReply (changeAnswer ++ [0, 0])
        sentChange).1 = .ok (acknowledgement changeAnswer) ∧
      ((sampleServer decode).verifyReply (changeAnswer.set 3 20) sentChange).1
        = .ok (acknowledgement (changeAnswer.set 3 20)) := by
  have hplain : ∀ attr ∈ (acknowledgement changeAnswer).attributes,
      Dictionary.standard.codec attr.type ≠ .userPassword := by
    have hkinds : ∀ attr ∈ (acknowledgement changeAnswer).attributes,
        (Dictionary.standard.codec attr.type).kind ≠ .text := by
      decide +kernel
    intro attr hattr hpassword
    exact hkinds attr hattr (congrArg Codec.kind hpassword)
  constructor
  · have hread : decodeStrict .standard sentChange.secret (changeAnswer ++ [0, 0])
        = .ok (acknowledgement changeAnswer) := by
      decide +kernel
    have hbody := (decodeStrict_eq_ok_iff.1 hread).2.2.2
    have hrecords := (plain_iff_of_readBody Dictionary.builtFrom_standard.stock (by decide) hbody).2
      hplain
    rw [(verifyReply_eq (builtFrom_sampleServer decodeStrict)).1 rfl hread hrecords]
    exact if_pos (by decide +kernel)
  · have hread : decode .standard sentChange.secret (changeAnswer.set 3 20)
        = .ok (acknowledgement (changeAnswer.set 3 20)) := by
      decide +kernel
    have hbody := (decode_eq_ok_iff.1 hread).2.2.2
    have hrecords := (plain_iff_of_readBody Dictionary.builtFrom_standard.stock (by decide) hbody).2
      hplain
    rw [(verifyReply_eq (builtFrom_sampleServer decode)).2 rfl hread hrecords]
    exact if_pos (by decide +kernel)

/-! ### An honest exchange -/

section
variable [Digest] {server : Server} {request reply : Packet}
variable {kept q : Packet} {wire answer : List UInt8}

/-- The sender of a request holds the key that went over the wire. -/
theorem key_sent {dictionary : Dictionary} (hcode : request.code ∈ Code.requests)
    (h : request.wire dictionary = .ok wire) :
    (request.sent wire).secret = request.secret ∧
      (request.sent wire).authenticator = Block.ofBytes (wire.drop 4) := by
  by_cases hkeeps : request.code.keepsDigest = true
  · rw [sent, if_pos hkeeps]
    exact ⟨rfl, rfl⟩
  · have hstored : request.code ∈ Code.stored :=
      (Code.mem_stored_or_keepsDigest_of_mem_requests hcode).resolve_right hkeeps
    rw [sent, if_neg hkeeps, ofBytes_drop_four_of_wire hstored h]
    exact ⟨rfl, rfl⟩

/-- The peer reads the key that went over the wire, and the identifier of the request. -/
theorem key_of_readers {dictionary : Dictionary} (hwire : request.wire dictionary = .ok wire)
    (h : decode dictionary request.secret wire = .ok q ∨
      decodeStrict dictionary request.secret wire = .ok q) :
    q.identifier = request.identifier ∧ q.secret = request.secret ∧
      q.authenticator = Block.ofBytes (wire.drop 4) := by
  rw [decodeStrict_eq_decode (lengthField_of_wire hwire), or_self] at h
  have hbody := (decode_eq_ok_iff.1 h).2.2.2
  obtain ⟨attributes, rfl⟩ :=
    exists_attributes_of_readBody (length_of_wire hwire).1 hbody
  rw [ofHeader_of_wire request.secret hwire]
  exact ⟨rfl, rfl, rfl⟩

/-- A server takes what a plain reply was written as, with either reader, against every request
that keys as the reply does. -/
theorem verifyReply_of_wire (hstock : ∀ type, (server.dictionary.codec type).Stock)
    (hreader : server.reader = decode ∨ server.reader = decodeStrict)
    (hcode : reply.code ∈ Code.replies) (hkey : reply.SameKey request)
    (hkinds : ∀ attr ∈ reply.attributes,
      attr.value.kind = (server.dictionary.codec attr.type).kind)
    (hplain : ∀ attr ∈ reply.attributes, server.dictionary.codec attr.type ≠ .userPassword)
    (h : reply.wire server.dictionary = .ok answer) :
    (server.verifyReply answer request).1 = .ok (reply.received answer) := by
  obtain ⟨hlong, hmost⟩ := length_of_wire h
  have hlegible : reply.Legible server.dictionary :=
    ⟨hkinds, fun attr hattr hpassword => absurd hpassword (hplain attr hattr), .inr hplain⟩
  obtain ⟨hdecode, hstrict⟩ := readers_of_wire hstock hlegible h
  rw [hkey.1] at hdecode hstrict
  have hread : server.reader server.dictionary request.secret answer
      = .ok (reply.received answer) := by
    rcases hreader with hreader | hreader
    · rw [hreader, hdecode]
    · rw [hreader, hstrict]
  have hbody := (decode_eq_ok_iff.1 hdecode).2.2.2
  have hrecords : Plain server.dictionary (answer.drop 20) :=
    (plain_iff_of_readBody hstock hlong hbody).2 hplain
  have hanswers : Answers request (withLength answer) := by
    rw [withLength_eq_self hlong (lengthField_of_wire h)]
    exact answers_of_wire hcode hkey h
  rw [verifyReply_of_readBody hstock hlong hread hbody hrecords]
  exact if_pos ⟨hmost, hanswers⟩

/-- An honest exchange. A request is encoded and sent, the peer reads it with either reader, and
encodes a reply with attributes of the right kinds and no hidden passwords. Then a server with
either reader takes the reply against the request as its sender keeps it, and finds the code that
the peer gave it, the identifier of the request and the attributes that the peer put in. -/
theorem verifyReply_of_response (hbuilt : server.dictionary.BuiltFrom Codec.Stock)
    (hreader : server.reader = decode ∨ server.reader = decodeStrict)
    (hrequest : request.code ∈ Code.requests)
    (hsent : request.encode server.dictionary = .ok (wire, kept))
    (hread : decode server.dictionary request.secret wire = .ok q ∨
      decodeStrict server.dictionary request.secret wire = .ok q)
    {code : Code} (hcode : code ∈ Code.replies) {attributes : List Attribute}
    (hkinds : ∀ attr ∈ attributes, attr.value.kind = (server.dictionary.codec attr.type).kind)
    (hplain : ∀ attr ∈ attributes, server.dictionary.codec attr.type ≠ .userPassword)
    {answered : Packet}
    (hanswer : ((q.response code).appendAll attributes).encode server.dictionary
      = .ok (answer, answered)) :
    ∃ reply, (server.verifyReply answer kept).1 = .ok reply ∧ reply.code = code ∧
      reply.identifier = request.identifier ∧ reply.attributes = attributes := by
  obtain ⟨hwire, rfl⟩ := encode_eq_ok_iff.1 hsent
  obtain ⟨hanswer, -⟩ := encode_eq_ok_iff.1 hanswer
  obtain ⟨hidentifier, hsecret, hauthenticator⟩ := key_of_readers hwire hread
  obtain ⟨hsecret', hauthenticator'⟩ := key_sent hrequest hwire
  -- Both ends hold the authenticator that stands in the bytes 4 to 19 of the request.
  have hkey : ((q.response code).appendAll attributes).SameKey (request.sent wire) :=
    ⟨hsecret.trans hsecret'.symm, hauthenticator.trans hauthenticator'.symm⟩
  have hempty : ((q.response code).appendAll attributes).attributes = attributes :=
    List.nil_append attributes
  refine ⟨_, verifyReply_of_wire hbuilt.stock hreader hcode hkey ?_ ?_ hanswer, rfl,
    hidentifier, hempty⟩
  · rw [hempty]
    exact hkinds
  · rw [hempty]
    exact hplain

end

/-- The request is sent, read by a peer and answered, and a server takes the answer. -/
theorem verifyReply_of_response_change :
    sampleChange.encode .standard = .ok (changeWire, sentChange) ∧
      ∃ reply, ((sampleServer decodeStrict).verifyReply changeAnswer sentChange).1 = .ok reply ∧
        reply.code = .coaAck ∧ reply.identifier = 9 ∧
        reply.attributes = (acknowledgement changeAnswer).attributes := by
  have hsent : sampleChange.encode .standard
      = .ok (changeWire, sentChange) := by
    decide +kernel
  -- What the peer reads: the request, with the digest as its authenticator.
  have hread : decode .standard sampleChange.secret changeWire
      = .ok (sampleChange.received changeWire) := by
    decide +kernel
  have hanswer : (((sampleChange.received changeWire).response .coaAck).appendAll
      (acknowledgement changeAnswer).attributes).encode .standard
        = .ok (changeAnswer, ((sampleChange.received changeWire).response .coaAck).appendAll
            (acknowledgement changeAnswer).attributes) := by
    decide +kernel
  have hkinds : ∀ attr ∈ (acknowledgement changeAnswer).attributes,
      attr.value.kind = (Dictionary.standard.codec attr.type).kind ∧ attr.value.kind ≠ .text := by
    decide +kernel
  refine ⟨hsent, ?_⟩
  refine verifyReply_of_response (builtFrom_sampleServer decodeStrict) (.inr rfl) (by decide) hsent
    (.inl hread) (by decide) (fun attr hattr => (hkinds attr hattr).1) ?_ hanswer
  intro attr hattr hpassword
  exact (hkinds attr hattr).2 ((hkinds attr hattr).1.trans (congrArg Codec.kind hpassword))

end Radius.Server
