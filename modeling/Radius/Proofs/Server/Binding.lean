import Radius.Proofs.Server

/-!
# `Radius.Proofs.Server.Binding`: what ties a reply to its request

`verifyReply` ties a reply to a request by the digest alone. The digest covers the identifier of the
reply, keyed with the secret of the request and seeded with its authenticator. It does not cover the
identifier of the request, and nothing else compares the two:

* `verifyReply_congr`: requests with the same secret and the same authenticator are answered by the
  same replies, whatever their identifiers.
* `verifyReply_binding`: which replies are taken, for all dictionaries. The codecs need not be those
  of the library, so this does not go through `verifyReply_eq`.
* `not_identifier_of_verifyReply`: a reply is taken against a request with another identifier.

So the packet that a sender looks up by the identifier of a reply is the one to check it against.
-/

set_option autoImplicit false

namespace Radius.Server

open Radius.Packet

section
variable [Digest] {server : Server} {request other reply : Packet} {data : List UInt8}

/-- A server takes what it reads, if that is authentic. -/
theorem verifyReply_eq_ok_iff :
    (server.verifyReply data request).1 = .ok reply ↔
      server.reader server.dictionary request.secret data = .ok reply ∧
        reply.isAuthentic server.dictionary request = true := by
  cases hread : server.reader server.dictionary request.secret data with
  | error cause =>
    rw [verifyReply_of_refusal hread]
    simp
  | ok packet =>
    rw [verifyReply_of_reader hread]
    split
    next hauthentic =>
      rw [Except.ok.injEq, Except.ok.injEq]
      constructor
      · rintro rfl
        exact ⟨rfl, hauthentic⟩
      · exact fun h => h.1
    next hforged =>
      constructor
      · intro h
        cases h
      · rintro ⟨h, hauthentic⟩
        cases h
        exact absurd hauthentic hforged

/-- A server answers alike for requests with the same key, with the same events. -/
theorem verifyReply_congr (h : request.SameKey other) :
    server.verifyReply data request = server.verifyReply data other := by
  unfold verifyReply
  rw [h.1]
  simp only [isAuthentic_congr h]

/-- Which replies are taken against a request, and whose identifier they have.

A reply is taken exactly if it is read, its code can be checked, and its own bytes, with its
identifier in their header, have the digest that it carries. The digest is keyed with the secret of
the request and seeded with its authenticator, or with zeros for a request to account. The
identifier is the second byte of the datagram. That of the request plays no part: with any other
one, the same datagrams are taken. -/
theorem verifyReply_binding (hreader : server.reader = decode ∨ server.reader = decodeStrict) :
    (∀ reply, (server.verifyReply data request).1 = .ok reply ↔
      server.reader server.dictionary request.secret data = .ok reply ∧
      reply.code ∈ Code.checked ∧
      ∃ wire, reply.wire server.dictionary = .ok wire ∧
        wire.take 4 = reply.code.toByte :: reply.identifier :: bigEndian 2 wire.length ∧
        sealed (wire.take 4) (reply.code.digestSeed request.authenticator) (wire.drop 20)
          request.secret = reply.authenticator) ∧
    (∀ reply, (server.verifyReply data request).1 = .ok reply →
      reply.identifier = data.getD 1 0) ∧
    ∀ other, request.SameKey other →
      server.verifyReply data other = server.verifyReply data request := by
  refine ⟨?_, ?_, fun _ hkey => (verifyReply_congr hkey).symm⟩
  · intro reply
    rw [verifyReply_eq_ok_iff, isAuthentic_iff_exists_wire]
    constructor
    · rintro ⟨hread, hcode, wire, hwire, hdigest⟩
      exact ⟨hread, hcode, wire, hwire, take_four_of_wire hwire, hdigest⟩
    · rintro ⟨hread, hcode, wire, hwire, -, hdigest⟩
      exact ⟨hread, hcode, wire, hwire, hdigest⟩
  · intro reply h
    exact identifier_of_readers hreader (verifyReply_eq_ok_iff.1 h).1

end

/-- The request that `changeAnswer` answers, with another identifier. -/
def strayChange : Packet :=
  { sentChange with identifier := 10 }

/-- The reply is taken against it. -/
theorem verifyReply_strayChange :
    ((sampleServer decodeStrict).verifyReply changeAnswer strayChange).1
      = .ok (acknowledgement changeAnswer) := by
  decide +kernel

/-- So the identifier of the reply is that of the datagram, and the answer is the one to the request
that was sent. -/
theorem verifyReply_binding_stray :
    ((sampleServer decodeStrict).verifyReply changeAnswer strayChange).1
        = .ok (acknowledgement changeAnswer) ∧
      (acknowledgement changeAnswer).identifier = changeAnswer.getD 1 0 ∧
      (acknowledgement changeAnswer).code ∈ Code.checked ∧
      (sampleServer decodeStrict).verifyReply changeAnswer sentChange
        = (sampleServer decodeStrict).verifyReply changeAnswer strayChange := by
  have hreader : (sampleServer decodeStrict).reader = decodeStrict := rfl
  obtain ⟨htaken, hidentifier, hothers⟩ := verifyReply_binding (.inr hreader)
  exact ⟨verifyReply_strayChange, hidentifier _ verifyReply_strayChange,
    ((htaken _).1 verifyReply_strayChange).2.1, hothers sentChange ⟨rfl, rfl⟩⟩

/-- A reply that is taken need not have the identifier of the request. -/
theorem not_identifier_of_verifyReply :
    ¬ ∀ (server : Server) (request reply : Packet) (data : List UInt8),
      server.reader = decode ∨ server.reader = decodeStrict →
      (server.verifyReply data request).1 = .ok reply →
      reply.identifier = request.identifier := by
  intro h
  have hidentifier := h _ strayChange _ _ (.inr rfl) verifyReply_strayChange
  exact absurd hidentifier (by decide)

end Radius.Server
