import Radius.Proofs.Error
import Radius.Proofs.Server
import Radius.Proofs.Server.Admission

/-!
# `Radius.Proofs.Server.Trace`: what a server reports

A server answers and reports at the same places. Receiving a datagram ends in one of three ways,
and checking a reply in one of three (`receive_cases`, `verifyReply_cases`). What is reported is
shown as log records, and a record holds less than the event that it shows: the wording of a fault
in place of the fault.

`records_of_answers` says that the records still tell what the server answered. A datagram that is
received leaves one record, and the record tells the three ways apart, the faults, and the codes of
packets. For this a code has to be known from its name (`Code.name_injective`), and a fault from its
wording, which holds of those that a reader finds (`ofReading_of_readers`, with
`PacketError.OfReading.eq_of_message_eq`). All records name the request by the second byte of the
datagram. Where a datagram is refused this byte is all that there
is, and where one is read it is the identifier of the packet (`identifier_of_readers`).
-/

set_option autoImplicit false

namespace Radius

/-! ### What a record says -/

/-- The record has this level and this message. -/
def Log.Record.Says (record : Record) (level : Level) (message : String) : Prop :=
  record.level = level ∧ record.message = message

/-- What a record holds in the field of a name. -/
def Log.Record.field? (record : Record) (name : String) : Option FieldValue :=
  record.fields.lookup name

/-! ### What a reader refuses -/

namespace Packet

variable {dictionary : Dictionary} {packet : Packet} {secret data bytes : List UInt8}
  {cause : PacketError}

/-- A row of records is refused for a record that is cut off or has no length, or by a codec. -/
theorem ofReading_of_readRecords (h : readRecords dictionary packet bytes = .error cause) :
    cause.OfReading := by
  -- By the rounds of the reader. The last one finds the fault.
  fun_induction readRecords dictionary packet bytes with
  | case1 => cases h
  | case2 =>
    cases h
    exact .recordTooShort 1
  | case3 packet type length =>
    cases h
    exact .invalidAttributeLength length
  | case4 packet type length rest hinside refusal =>
    cases h
    exact .codec refusal
  | case5 packet type length rest hinside value hvalue ih => exact ih h

/-- No reader refuses a datagram for anything else than what is wrong with its bytes. -/
theorem ofReading_of_readers {reader : Reader} (hreader : reader = decode ∨ reader = decodeStrict)
    (h : reader dictionary secret data = .error cause) : cause.OfReading := by
  rcases fault_of_readers hreader h with rfl | rfl | ⟨part, hlong, hbody⟩
  · exact .tooShort _
  · exact .invalidLength _
  · rw [readBody_eq hlong] at hbody
    exact ofReading_of_readRecords hbody

end Packet

namespace Server

open Packet

/-! ### Receiving a datagram -/

/-- A datagram names its request by its second byte. -/
theorem requestIdentifier_eq (data : List UInt8) : requestIdentifier data = data.getD 1 0 := by
  match data with
  | [] => rfl
  | [_] => rfl
  | _ :: _ :: _ => rfl

/-- All that receiving a datagram can do, with what it reports. -/
theorem receive_cases (server : Server) (data : List UInt8) (source : Address) :
    server.receive data source
        = (.error (.invalidClient source), [.unauthorized source (data.getD 1 0)]) ∨
    (∃ cause, server.reader server.dictionary (server.secretFor source) data = .error cause ∧
      server.receive data source
        = (.error (.packet cause), [.malformed source (data.getD 1 0) cause])) ∨
    ∃ packet, server.reader server.dictionary (server.secretFor source) data = .ok packet ∧
      server.receive data source
        = (.ok packet,
          [.received source packet.code packet.identifier packet.attributes.length]) := by
  rw [← requestIdentifier_eq]
  unfold receive
  cases server.admits source with
  | false => exact .inl rfl
  | true =>
    cases server.reader server.dictionary (server.secretFor source) data with
    | error cause => exact .inr (.inl ⟨cause, rfl, rfl⟩)
    | ok packet => exact .inr (.inr ⟨packet, rfl, rfl⟩)

/-- What the record says that is left of a datagram from a source, with the given result:

- `client`, `request`: it names the source, and the request by the second byte of the datagram, or
  zero if there is none;
- `unauthorized`: it warns of the source exactly if the source was refused;
- `malformed`: it warns of the datagram exactly if that could not be read;
- `wording`: it holds the wording of a fault exactly if this is the fault that was found;
- `code`: it holds the name of a code exactly if a packet with this code was received;
- `received`: otherwise a packet was received, with the identifier of the request. The record is one
  for debugging, with the name of the code and the number of attributes of the packet. -/
structure ReceiptRecord (data : List UInt8) (source : Address) (result : Except ServerError Packet)
    (record : Log.Record) : Prop where
  client : record.field? "client_ip" = some (.text source.text)
  request : record.field? "request_id" = some (.number (data.getD 1 0).toNat)
  unauthorized : record.Says .warn "Rejected request from unauthorized client" ↔
    result = .error (.invalidClient source)
  malformed : record.Says .warn "Rejected malformed packet" ↔
    ∃ cause, result = .error (.packet cause)
  wording : ∀ cause, record.field? "error" = some (.text cause.message) ↔
    result = .error (.packet cause)
  code : ∀ code, record.field? "packet_type" = some (.text code.name) ↔
    ∃ packet, result = .ok packet ∧ packet.code = code
  received : result ≠ .error (.invalidClient source) →
    (∀ cause, result ≠ .error (.packet cause)) →
    ∃ packet, result = .ok packet ∧ packet.identifier = data.getD 1 0 ∧
      record.Says .debug "Received RADIUS packet" ∧
      record.field? "packet_type" = some (.text packet.code.name) ∧
      record.field? "attributes" = some (.number packet.attributes.length)

section
variable {data : List UInt8} {source : Address}

/-- The record of a source that was refused. -/
theorem receiptRecord_unauthorized :
    ReceiptRecord data source (.error (.invalidClient source))
      (Event.unauthorized source (data.getD 1 0)).record where
  client := rfl
  request := rfl
  unauthorized := by simp [Event.record, Log.Record.Says]
  malformed := by simp [Event.record, Log.Record.Says]
  wording _ := by
    have hfield : (Event.unauthorized source (data.getD 1 0)).record.field? "error" = none := rfl
    rw [hfield]
    simp
  code _ := by
    have hfield : (Event.unauthorized source (data.getD 1 0)).record.field? "packet_type"
        = none := rfl
    rw [hfield]
    simp
  received hsource := absurd rfl hsource

/-- The record of a datagram that could not be read. The fault is one of a reader, so no other one
has its wording. -/
theorem receiptRecord_malformed {cause : PacketError} (hcause : cause.OfReading) :
    ReceiptRecord data source (.error (.packet cause))
      (Event.malformed source (data.getD 1 0) cause).record where
  client := rfl
  request := rfl
  unauthorized := by simp [Event.record, Log.Record.Says]
  malformed := by simp [Event.record, Log.Record.Says]
  wording other := by
    have hfield : (Event.malformed source (data.getD 1 0) cause).record.field? "error"
        = some (.text cause.message) := rfl
    rw [hfield]
    constructor
    · intro h
      have hmessage : cause.message = other.message := by simpa using h
      -- `other` is any fault at all, so it is `cause` that has to be one of a reader.
      rw [hcause.eq_of_message_eq hmessage]
    · intro h
      cases h
      rfl
  code _ := by
    have hfield : (Event.malformed source (data.getD 1 0) cause).record.field? "packet_type"
        = none := rfl
    rw [hfield]
    simp
  received _ hcauses := absurd rfl (hcauses cause)

/-- The record of a packet that was received, which keeps the identifier of the datagram. -/
theorem receiptRecord_received {packet : Packet} (hidentifier : packet.identifier = data.getD 1 0) :
    ReceiptRecord data source (.ok packet)
      (Event.received source packet.code packet.identifier packet.attributes.length).record where
  client := rfl
  request := by
    rw [← hidentifier]
    rfl
  unauthorized := by simp [Event.record, Log.Record.Says]
  malformed := by simp [Event.record, Log.Record.Says]
  wording _ := by
    have hfield : (Event.received source packet.code packet.identifier
        packet.attributes.length).record.field? "error" = none := rfl
    rw [hfield]
    simp
  code code := by
    have hfield : (Event.received source packet.code packet.identifier
        packet.attributes.length).record.field? "packet_type" = some (.text packet.code.name) := rfl
    rw [hfield]
    constructor
    · intro h
      have hname : packet.code.name = code.name := by simpa using h
      exact ⟨packet, rfl, Code.name_injective hname⟩
    · rintro ⟨_, h, rfl⟩
      cases h
      rfl
  received _ _ := ⟨packet, rfl, hidentifier, ⟨rfl, rfl⟩, rfl, rfl⟩

end

/-! ### Checking a reply -/

/-- What the records say that are left of a reply, with the given result:

- `unread`: there are none exactly if the reply could not be read;
- `forged`: if the reply is not authentic, there is one, and it warns of the reply that the error
  names, which is that of the second byte;
- `verified`: if the reply is taken, there is one for debugging. It names the reply by the second
  byte as well, and holds the name of a code exactly if the reply has this code. -/
structure ReplyRecords (data : List UInt8) (result : Except ServerError Packet)
    (records : List Log.Record) : Prop where
  unread : records = [] ↔ ∃ cause, result = .error (.packet cause)
  forged : ∀ identifier, result = .error (.notAuthentic identifier) →
    identifier = data.getD 1 0 ∧ ∃ record, records = [record] ∧
      record.Says .warn "Reply failed authenticator check" ∧
      record.field? "request_id" = some (.number identifier.toNat)
  verified : ∀ reply, result = .ok reply →
    reply.identifier = data.getD 1 0 ∧ ∃ record, records = [record] ∧
      record.Says .debug "Verified RADIUS reply" ∧
      record.field? "request_id" = some (.number (data.getD 1 0).toNat) ∧
      ∀ code, record.field? "packet_type" = some (.text code.name) ↔ reply.code = code

section
variable {data : List UInt8} {reply : Packet}

/-- No record is left of a reply that could not be read. -/
theorem replyRecords_unread (cause : PacketError) :
    ReplyRecords data (.error (.packet cause)) [] where
  unread := by simp
  forged _ h := by cases h
  verified _ h := by cases h

/-- The record of a reply that is not authentic. -/
theorem replyRecords_forged (hidentifier : reply.identifier = data.getD 1 0) :
    ReplyRecords data (.error (.notAuthentic reply.identifier))
      [(Event.forged reply.code reply.identifier).record] where
  unread := by simp
  forged identifier h := by
    cases h
    exact ⟨hidentifier, _, rfl, ⟨rfl, rfl⟩, rfl⟩
  verified _ h := by cases h

/-- The record of a reply that was taken, which tells its code by the name. -/
theorem replyRecords_verified (hidentifier : reply.identifier = data.getD 1 0) :
    ReplyRecords data (.ok reply) [(Event.verified reply.code reply.identifier).record] where
  unread := by simp
  forged _ h := by cases h
  verified other h := by
    cases h
    rw [← hidentifier]
    refine ⟨rfl, _, rfl, ⟨rfl, rfl⟩, rfl, fun code => ?_⟩
    have hfield : (Event.verified reply.code reply.identifier).record.field? "packet_type"
        = some (.text reply.code.name) := rfl
    rw [hfield]
    constructor
    · intro h
      exact Code.name_injective (by simpa using h)
    · rintro rfl
      rfl

end

section
variable [Digest]

/-- All that checking a reply can do, with what it reports. -/
theorem verifyReply_cases (server : Server) (data : List UInt8) (request : Packet) :
    (∃ cause, server.reader server.dictionary request.secret data = .error cause ∧
      server.verifyReply data request = (.error (.packet cause), [])) ∨
    ∃ reply, server.reader server.dictionary request.secret data = .ok reply ∧
      (server.verifyReply data request
          = (.error (.notAuthentic reply.identifier), [.forged reply.code reply.identifier]) ∨
        server.verifyReply data request
          = (.ok reply, [.verified reply.code reply.identifier])) := by
  cases hread : server.reader server.dictionary request.secret data with
  | error cause => exact .inl ⟨cause, rfl, verifyReply_of_refusal hread⟩
  | ok reply =>
    refine .inr ⟨reply, rfl, ?_⟩
    unfold verifyReply
    rw [hread]
    by_cases hauthentic : reply.isAuthentic server.dictionary request = true
    · exact .inr (if_pos hauthentic)
    · exact .inl (if_neg hauthentic)

/-- What is left of a reply that was checked. -/
theorem replyRecords_of_verifyReply {server : Server}
    (hreader : server.reader = decode ∨ server.reader = decodeStrict) (data : List UInt8)
    (request : Packet) :
    ReplyRecords data (server.verifyReply data request).1
      ((server.verifyReply data request).2.map Event.record) := by
  rcases verifyReply_cases server data request with
    ⟨cause, -, h⟩ | ⟨reply, hread, h | h⟩
  · rw [h]
    exact replyRecords_unread cause
  · rw [h]
    exact replyRecords_forged (identifier_of_readers hreader hread)
  · rw [h]
    exact replyRecords_verified (identifier_of_readers hreader hread)

end

/-! ### One record for every answer -/

/-- What is left of a datagram that was received. -/
theorem exists_receiptRecord {server : Server}
    (hreader : server.reader = decode ∨ server.reader = decodeStrict) (data : List UInt8)
    (source : Address) :
    ∃ record, (server.receive data source).2.map Event.record = [record] ∧
      ReceiptRecord data source (server.receive data source).1 record := by
  rcases receive_cases server data source with h | ⟨cause, hread, h⟩ | ⟨packet, hread, h⟩
  · rw [h]
    exact ⟨_, rfl, receiptRecord_unauthorized⟩
  · rw [h]
    exact ⟨_, rfl, receiptRecord_malformed (ofReading_of_readers hreader hread)⟩
  · rw [h]
    exact ⟨_, rfl, receiptRecord_received (identifier_of_readers hreader hread)⟩

/-- Every answer of a server leaves the records that match it, whatever its dictionary is.

A datagram that is received from a source leaves one record. A reply that cannot be read leaves
none, and one that is read leaves one. What the records say is `ReceiptRecord` and
`ReplyRecords`. -/
theorem records_of_answers [Digest] {server : Server}
    (hreader : server.reader = decode ∨ server.reader = decodeStrict) (data : List UInt8) :
    (∀ source, ∃ record, (server.receive data source).2.map Event.record = [record] ∧
      ReceiptRecord data source (server.receive data source).1 record) ∧
    ∀ request,
      (∀ cause, server.reader server.dictionary request.secret data = .error cause →
        server.verifyReply data request = (.error (.packet cause), [])) ∧
      ReplyRecords data (server.verifyReply data request).1
        ((server.verifyReply data request).2.map Event.record) := by
  refine ⟨exists_receiptRecord hreader data, fun request => ⟨?_, ?_⟩⟩
  · intro cause hread
    exact verifyReply_of_refusal hread
  · exact replyRecords_of_verifyReply hreader data request

/-- The reply `changeAnswer` with another timeout. -/
def forgedAnswer : List UInt8 :=
  changeAnswer.set 31 0

/-- A server with clients warns of a stranger, with the identifier of a datagram that it does not
read. It warns of a datagram without an identifier, with zero and the wording of the fault. And it
reports what it receives and takes, with the code, and a reply that was altered under way. -/
theorem records_of_answers_sample :
    (∃ record, ((ofConfig .standard sampleClients).receive sampleDatagram (neighbour 2)).2.map
        Event.record = [record] ∧
      record.Says .warn "Rejected request from unauthorized client" ∧
      record.field? "request_id" = some (.number 7)) ∧
    (∃ record, ((ofConfig .standard sampleClients).receive [4] (neighbour 1)).2.map
        Event.record = [record] ∧
      record.Says .warn "Rejected malformed packet" ∧
      record.field? "request_id" = some (.number 0) ∧
      record.field? "error" = some (.text "Packet too short: 1 bytes (minimum 20)")) ∧
    (∃ record, ((ofConfig .standard sampleClients).receive sampleDatagram (neighbour 1)).2.map
        Event.record = [record] ∧
      record.Says .debug "Received RADIUS packet" ∧
      record.field? "request_id" = some (.number 7) ∧
      record.field? "packet_type" = some (.text "Accounting-Request") ∧
      record.field? "attributes" = some (.number 0)) ∧
    (∃ record, ((sampleServer decodeStrict).verifyReply changeAnswer sentChange).2.map
        Event.record = [record] ∧
      record.Says .debug "Verified RADIUS reply" ∧
      record.field? "request_id" = some (.number 9) ∧
      record.field? "packet_type" = some (.text "CoA-ACK")) ∧
    (∃ record, ((sampleServer decodeStrict).verifyReply forgedAnswer sentChange).2.map
        Event.record = [record] ∧
      record.Says .warn "Reply failed authenticator check" ∧
      record.field? "request_id" = some (.number 9)) ∧
    (sampleServer decodeStrict).verifyReply [44] sentChange
      = (.error (.packet (.tooShort 1)), []) := by
  have hlenient : (ofConfig .standard sampleClients).reader = decode := rfl
  have hstrict : (sampleServer decodeStrict).reader = decodeStrict := rfl
  refine ⟨?_, ?_, ?_, ?_, ?_, ?_⟩
  · obtain ⟨record, hrecord, hreceipt⟩ :=
      (records_of_answers (.inl hlenient) sampleDatagram).1 (neighbour 2)
    have hrefused : ((ofConfig .standard sampleClients).receive sampleDatagram (neighbour 2)).1
        = .error (.invalidClient (neighbour 2)) := by decide +kernel
    exact ⟨record, hrecord, hreceipt.unauthorized.2 hrefused, hreceipt.request⟩
  · obtain ⟨record, hrecord, hreceipt⟩ :=
      (records_of_answers (.inl hlenient) [4]).1 (neighbour 1)
    have hshort : ((ofConfig .standard sampleClients).receive [4] (neighbour 1)).1
        = .error (.packet (.tooShort 1)) := by decide +kernel
    exact ⟨record, hrecord, hreceipt.malformed.2 ⟨_, hshort⟩, hreceipt.request,
      (hreceipt.wording _).2 hshort⟩
  · obtain ⟨record, hrecord, hreceipt⟩ :=
      (records_of_answers (.inl hlenient) sampleDatagram).1 (neighbour 1)
    have hreceived : ((ofConfig .standard sampleClients).receive sampleDatagram (neighbour 1)).1
        = .ok (ofHeader (Utf8.ofString "host") sampleDatagram) := by decide +kernel
    obtain ⟨packet, hpacket, -, hmessage, -, hattributes⟩ :=
      hreceipt.received (by simp [hreceived]) (by simp [hreceived])
    rw [hreceived] at hpacket
    cases hpacket
    exact ⟨record, hrecord, hmessage, hreceipt.request,
      (hreceipt.code .accountingRequest).2 ⟨_, hreceived, rfl⟩, hattributes⟩
  · have htaken : ((sampleServer decodeStrict).verifyReply changeAnswer sentChange).1
        = .ok (acknowledgement changeAnswer) := by decide +kernel
    obtain ⟨-, record, hrecord, hmessage, hrequest, hcode⟩ :=
      ((records_of_answers (.inr hstrict) changeAnswer).2 sentChange).2.verified _ htaken
    exact ⟨record, hrecord, hmessage, hrequest, (hcode .coaAck).2 rfl⟩
  · have hforged : ((sampleServer decodeStrict).verifyReply forgedAnswer sentChange).1
        = .error (.notAuthentic 9) := by decide +kernel
    exact (((records_of_answers (.inr hstrict) forgedAnswer).2 sentChange).2.forged _ hforged).2
  · exact ((records_of_answers (.inr hstrict) [44]).2 sentChange).1 _ (by decide +kernel)

end Server

end Radius
