import Radius.Config
import Radius.Log
import Radius.Packet.Authenticity

/-!
# `Radius.Server`: receiving requests and checking replies

A server turns datagrams into packets with its reader, its dictionary and the secret of the
client that a datagram comes from, and it checks replies against the requests that they
answer. It does not touch the network. With every result come the events that it reports.

A server with clients refuses sources that none of them covers before it reads anything. A
server without clients admits every source.
-/

set_option autoImplicit false

namespace Radius

/-- Why a server hands out no packet. -/
inductive ServerError
  | packet (cause : PacketError)
  | invalidClient (source : Address)
  | notAuthentic (identifier : UInt8)
  deriving DecidableEq

/-- The wording of a server's error. -/
def ServerError.message : ServerError → String
  | .packet cause => s!"Packet error: {cause.message}"
  | .invalidClient source => s!"Invalid client: {source.text}"
  | .notAuthentic identifier =>
    s!"Reply {identifier.toNat} does not authenticate against its request"

/-- What a server reports. -/
inductive Event
  /-- A source that no client covers was refused. -/
  | unauthorized (source : Address) (request : UInt8)
  /-- A datagram could not be read. -/
  | malformed (source : Address) (request : UInt8) (cause : PacketError)
  /-- A request was read. -/
  | received (source : Address) (code : Code) (identifier : UInt8) (attributes : Nat)
  /-- A reply carries another authenticator than its request calls for. -/
  | forged (code : Code) (identifier : UInt8)
  /-- A reply answers its request. -/
  | verified (code : Code) (identifier : UInt8)
  deriving DecidableEq

/-- The log record of an event. -/
def Event.record : Event → Log.Record
  | .unauthorized source request =>
    ⟨.warn, .server, "Rejected request from unauthorized client",
      [("client_ip", .text source.text), ("request_id", .number request.toNat)]⟩
  | .malformed source request cause =>
    ⟨.warn, .server, "Rejected malformed packet",
      [("client_ip", .text source.text), ("request_id", .number request.toNat),
        ("error", .text cause.message)]⟩
  | .received source code identifier attributes =>
    ⟨.debug, .server, "Received RADIUS packet",
      [("packet_type", .text code.name), ("client_ip", .text source.text),
        ("request_id", .number identifier.toNat), ("attributes", .number attributes)]⟩
  | .forged code identifier =>
    ⟨.warn, .server, "Reply failed authenticator check",
      [("packet_type", .text code.name), ("request_id", .number identifier.toNat)]⟩
  | .verified code identifier =>
    ⟨.debug, .server, "Verified RADIUS reply",
      [("packet_type", .text code.name), ("request_id", .number identifier.toNat)]⟩

/-- A server. -/
structure Server where
  dictionary : Dictionary
  /-- The secret for every source, unless there is a configuration. -/
  secret : List UInt8
  reader : Packet.Reader := Packet.decode
  config? : Option Config := none

namespace Server

/-- The server that a configuration describes. -/
def ofConfig (dictionary : Dictionary) (config : Config) : Server where
  dictionary
  secret := Utf8.ofString config.secret
  reader := if config.strictLengthCheck then Packet.decodeStrict else Packet.decode
  config? := some config

/-- The secret for packets from a source. -/
def secretFor (server : Server) (source : Address) : List UInt8 :=
  match server.config? with
  | some config => config.secretFor source
  | none => server.secret

/-- Packets from the source are read. -/
def admits (server : Server) (source : Address) : Bool :=
  match server.config? with
  | some config => config.clients.isEmpty || (config.client? source).isSome
  | none => true

/-- The identifier of the request in a datagram, zero if the datagram is too short for
one. -/
def requestIdentifier (data : List UInt8) : UInt8 :=
  match data with
  | _ :: identifier :: _ => identifier
  | _ => 0

/-- Reads a datagram from a source. -/
def receive (server : Server) (data : List UInt8) (source : Address) :
    Except ServerError Packet × List Event :=
  if server.admits source then
    match server.reader server.dictionary (server.secretFor source) data with
    | .error cause =>
      (.error (.packet cause), [.malformed source (requestIdentifier data) cause])
    | .ok packet =>
      (.ok packet,
        [.received source packet.code packet.identifier packet.attributes.length])
  else (.error (.invalidClient source), [.unauthorized source (requestIdentifier data)])

/-- Reads a reply with the secret of its request and checks that it answers the request. The
requests that change or end a session have to be as they were after sending. -/
def verifyReply [Digest] (server : Server) (data : List UInt8) (request : Packet) :
    Except ServerError Packet × List Event :=
  match server.reader server.dictionary request.secret data with
  | .error cause => (.error (.packet cause), [])
  | .ok reply =>
    if reply.isAuthentic server.dictionary request then
      (.ok reply, [.verified reply.code reply.identifier])
    else (.error (.notAuthentic reply.identifier), [.forged reply.code reply.identifier])

end Server

end Radius
