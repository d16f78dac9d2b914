import Radius.Digest.Md5
import Radius.Proofs.Config.Clients
import Radius.Proofs.Packet.Layout
import Radius.Server

/-!
# `Radius.Proofs.Server.Admission`: which secret a datagram is read with

The server asks its configuration twice about a source: whether it is admitted, and which secret
its packets are keyed with. Both come down to the first client that matches the source
(`Config.FirstMatch`), and so they never disagree:

* `admits_ofConfig_iff`: a source is admitted if there are no clients, or one of them matches.
* `receive_ofConfig`: what becomes of a datagram, for every list of clients and every source. With
  clients, the default secret keys no packet.
-/

set_option autoImplicit false

namespace Radius

open Packet

/-- What the reader that a configuration selects makes of a datagram, with a secret. -/
def Config.reading (config : Config) (dictionary : Dictionary) (secret : String)
    (data : List UInt8) : Except ServerError Packet :=
  let reader := if config.strictLengthCheck then decodeStrict else decode
  (reader dictionary (Utf8.ofString secret) data).mapError .packet

/-- The reader is one of the two, and the same one for every datagram. -/
theorem Config.exists_reader (config : Config) :
    ∃ reader, (reader = decode ∨ reader = decodeStrict) ∧
      ∀ dictionary secret data, config.reading dictionary secret data
        = (reader dictionary (Utf8.ofString secret) data).mapError .packet := by
  unfold Config.reading
  cases config.strictLengthCheck with
  | false => exact ⟨decode, .inl rfl, fun _ _ _ => rfl⟩
  | true => exact ⟨decodeStrict, .inr rfl, fun _ _ _ => rfl⟩

/-- What comes of it is a packet that is keyed with the secret, or a fault of the reader. -/
theorem Config.reading_cases (config : Config) (dictionary : Dictionary) (secret : String)
    (data : List UInt8) :
    (∃ packet, config.reading dictionary secret data = .ok packet ∧
      packet.secret = Utf8.ofString secret) ∨
    ∃ cause, config.reading dictionary secret data = .error (.packet cause) := by
  obtain ⟨reader, hreader, hreading⟩ := config.exists_reader
  rw [hreading]
  cases hread : reader dictionary (Utf8.ofString secret) data with
  | error cause => exact .inr ⟨cause, rfl⟩
  | ok packet => exact .inl ⟨packet, rfl, secret_of_readers hreader hread⟩

namespace Server

/-- A source that is not admitted is refused before anything is read. Otherwise the answer is what
the reader makes of the datagram. -/
theorem receive_eq (server : Server) (data : List UInt8) (source : Address) :
    (server.receive data source).1
      = if server.admits source then
          (server.reader server.dictionary (server.secretFor source) data).mapError .packet
        else .error (.invalidClient source) := by
  unfold receive
  split
  next =>
    cases server.reader server.dictionary (server.secretFor source) data with
    | error cause => rfl
    | ok packet => rfl
  next => rfl

/-- A datagram is received as a packet if its source is admitted and the reader reads the packet. -/
theorem receive_eq_ok_iff {server : Server} {data : List UInt8} {source : Address}
    {packet : Packet} :
    (server.receive data source).1 = .ok packet ↔
      server.admits source = true ∧
        server.reader server.dictionary (server.secretFor source) data = .ok packet := by
  rw [receive_eq]
  cases server.admits source with
  | false => simp
  | true =>
    cases server.reader server.dictionary (server.secretFor source) data with
    | error cause => simp [Except.mapError]
    | ok read => simp [Except.mapError]

/-- Servers that read alike, admit the same sources and have the same secrets for them receive the
same. -/
theorem receive_congr {server other : Server} {source : Address}
    (hdictionary : other.dictionary = server.dictionary)
    (hreader : other.reader = server.reader) (hadmits : other.admits source = server.admits source)
    (hsecret : other.secretFor source = server.secretFor source) (data : List UInt8) :
    other.receive data source = server.receive data source := by
  rw [receive, receive, hdictionary, hreader, hadmits, hsecret]

section
variable {dictionary : Dictionary} {config : Config} {source : Address} {client : Client} {i : Nat}

/-- A source is admitted if there are no clients, or one of them matches it. -/
theorem admits_ofConfig_iff :
    (ofConfig dictionary config).admits source = true ↔
      config.clients = [] ∨ ∃ i client, config.FirstMatch source i client := by
  show (config.clients.isEmpty || (config.client? source).isSome) = true ↔ _
  rw [Bool.or_eq_true, List.isEmpty_iff, Option.isSome_iff_exists]
  refine or_congr_right ?_
  simp only [Config.client?_eq_some_iff]
  exact exists_comm

/-- A source that a client matches has the secret of the first one that does. -/
theorem secretFor_of_firstMatch (h : config.FirstMatch source i client) :
    (ofConfig dictionary config).secretFor source = Utf8.ofString client.secret := by
  show config.secretFor source = _
  rw [Config.secretFor, Config.client?_eq_some_iff.2 ⟨i, h⟩]

/-- Without clients every source has the default secret. -/
theorem secretFor_of_nil (h : config.clients = []) :
    (ofConfig dictionary config).secretFor source = Utf8.ofString config.secret := by
  show config.secretFor source = _
  rw [Config.secretFor, Config.client?, h]
  rfl

/-- A source that is admitted has its datagrams read with the secret that it has. -/
theorem receive_of_admits {data : List UInt8} {secret : String}
    (hadmits : (ofConfig dictionary config).admits source = true)
    (hsecret : (ofConfig dictionary config).secretFor source = Utf8.ofString secret) :
    ((ofConfig dictionary config).receive data source).1
      = config.reading dictionary secret data := by
  rw [receive_eq, if_pos hadmits, hsecret]
  rfl

/-- What is read is never refused for its source. -/
theorem reading_ne_invalidClient {data : List UInt8} {secret : String} :
    config.reading dictionary secret data ≠ .error (.invalidClient source) := by
  intro h
  rcases config.reading_cases dictionary secret data with ⟨packet, hread, -⟩ | ⟨cause, hread⟩
  · rw [hread] at h
    cases h
  · rw [hread] at h
    cases h

/-- What is read is keyed with the secret. -/
theorem secret_of_reading {data : List UInt8} {secret : String} {packet : Packet}
    (h : config.reading dictionary secret data = .ok packet) :
    packet.secret = Utf8.ofString secret := by
  rcases config.reading_cases dictionary secret data with ⟨read, hread, hsecret⟩ | ⟨cause, hread⟩
  · rw [hread] at h
    cases h
    exact hsecret
  · rw [hread] at h
    cases h

end

/-- What becomes of a datagram from a source, on the server that a configuration describes.

The source is refused exactly if there are clients and none of them matches, whatever the datagram.
If one matches, the datagram is read with the secret of the first that does, and without clients it
is read with the default secret. With clients, every packet is keyed with the secret of the first
match. The last two parts say what it is to match at the two ends: the address of one host matches
that host alone, and a network without leading bits matches its whole family. -/
theorem receive_ofConfig (dictionary : Dictionary) (config : Config) (data : List UInt8)
    (source : Address) :
    (((ofConfig dictionary config).receive data source).1 = .error (.invalidClient source) ↔
      config.clients ≠ [] ∧ ¬ ∃ i client, config.FirstMatch source i client) ∧
    (∀ i client, config.FirstMatch source i client →
      ((ofConfig dictionary config).receive data source).1
        = config.reading dictionary client.secret data) ∧
    (config.clients = [] →
      ((ofConfig dictionary config).receive data source).1
        = config.reading dictionary config.secret data) ∧
    (config.clients ≠ [] → ∀ packet,
      ((ofConfig dictionary config).receive data source).1 = .ok packet →
      ∃ i client, config.FirstMatch source i client ∧
        packet.secret = Utf8.ofString client.secret) ∧
    (∀ (client : Client) address, Address.read? client.address.toList = some address →
      (client.Matches source ↔ client.enabled = true ∧ source = address)) ∧
    (∀ (client : Client) network, client.network? = some network → network.length = 0 →
      (client.Matches source ↔
        client.enabled = true ∧ network.address.sameFamily source = true)) := by
  -- What is done with the datagram in each of the three cases, and then which case it was.
  have hmatched : ∀ i client, config.FirstMatch source i client →
      ((ofConfig dictionary config).receive data source).1
        = config.reading dictionary client.secret data := by
    intro i client hfirst
    exact receive_of_admits (admits_ofConfig_iff.2 (.inr ⟨i, client, hfirst⟩))
      (secretFor_of_firstMatch hfirst)
  have hopen : config.clients = [] →
      ((ofConfig dictionary config).receive data source).1
        = config.reading dictionary config.secret data := by
    intro hnil
    exact receive_of_admits (admits_ofConfig_iff.2 (.inl hnil)) (secretFor_of_nil hnil)
  have hrefused : config.clients ≠ [] ∧ (¬ ∃ i client, config.FirstMatch source i client) →
      ((ofConfig dictionary config).receive data source).1 = .error (.invalidClient source) := by
    rintro ⟨hclients, hnone⟩
    rw [receive_eq, if_neg]
    rw [admits_ofConfig_iff]
    exact not_or.2 ⟨hclients, hnone⟩
  refine ⟨⟨fun h => ⟨?_, ?_⟩, hrefused⟩, hmatched, hopen, ?_, fun _ _ => Client.matches_of_address,
    fun _ _ => Client.matches_of_length_zero⟩
  · intro hnil
    rw [hopen hnil] at h
    exact reading_ne_invalidClient h
  · rintro ⟨i, client, hfirst⟩
    rw [hmatched i client hfirst] at h
    exact reading_ne_invalidClient h
  · intro hclients packet hpacket
    by_cases hfirst : ∃ i client, config.FirstMatch source i client
    · obtain ⟨i, client, hfirst⟩ := hfirst
      rw [hmatched i client hfirst] at hpacket
      exact ⟨i, client, hfirst, secret_of_reading hpacket⟩
    · rw [hrefused ⟨hclients, hfirst⟩] at hpacket
      cases hpacket

/-- Clients of both families: an address that cannot be read, a disabled one, and networks inside
one another. -/
def sampleClients : Config where
  secret := "default"
  clients := [
    { address := "10.0.0.0/33", secret := "unreadable" },
    { address := "10.0.0.0/8", secret := "disabled", enabled := false },
    { address := "10.1.2.3/16", secret := "inner" },
    { address := "0.0.0.0/0", secret := "outer" },
    { address := "2001:db8::1", secret := "host" }]

/-- A datagram without attributes. -/
def sampleDatagram : List UInt8 :=
  [4, 7, 0, 20] ++ List.replicate 16 0

/-- The datagram is read with any secret. -/
theorem reading_sampleDatagram (secret : String) :
    sampleClients.reading .standard secret sampleDatagram
      = .ok (ofHeader (Utf8.ofString secret) sampleDatagram) := by
  have hbody : readBody .standard (Utf8.ofString secret) sampleDatagram
      = .ok (ofHeader (Utf8.ofString secret) sampleDatagram) := by
    rw [readBody_eq (by decide)]
    show readRecords .standard _ [] = _
    rw [readRecords]
  have hread : decode .standard (Utf8.ofString secret) sampleDatagram
      = .ok (ofHeader (Utf8.ofString secret) sampleDatagram) :=
    decode_eq_ok_iff.2 ⟨by decide, by decide, by decide, hbody⟩
  have hselected : sampleClients.strictLengthCheck = false := rfl
  rw [Config.reading, hselected]
  simp only [Bool.false_eq_true, if_false, hread]
  rfl

/-- A host in one IPv6 network with the last client. -/
def neighbour (last : UInt16) : Address :=
  .v6 ⟨[0x2001, 0xdb8, 0, 0, 0, 0, 0, last], rfl⟩

/-- An IPv4 source has the secret of the narrower network if it is in there, and of the wider one
otherwise. The one host has its own, and its neighbour is refused. Without clients there is only
the default secret. -/
theorem receive_ofConfig_sample :
    ((ofConfig .standard sampleClients).receive sampleDatagram (.v4 ⟨10, 1, 9, 9⟩)).1
        = .ok (ofHeader (Utf8.ofString "inner") sampleDatagram) ∧
      ((ofConfig .standard sampleClients).receive sampleDatagram (.v4 ⟨192, 0, 2, 1⟩)).1
        = .ok (ofHeader (Utf8.ofString "outer") sampleDatagram) ∧
      ((ofConfig .standard sampleClients).receive sampleDatagram (neighbour 1)).1
        = .ok (ofHeader (Utf8.ofString "host") sampleDatagram) ∧
      ((ofConfig .standard sampleClients).receive sampleDatagram (neighbour 2)).1
        = .error (.invalidClient (neighbour 2)) ∧
      ((ofConfig .standard {}).receive sampleDatagram (neighbour 2)).1
        = ({} : Config).reading .standard "testing123" sampleDatagram ∧
      (∃ i client, sampleClients.FirstMatch (neighbour 1) i client ∧
        Utf8.ofString "host" = Utf8.ofString client.secret) ∧
      ¬ ({ address := "2001:db8::1", secret := "host" } : Client).Matches (neighbour 2) ∧
      ({ address := "0.0.0.0/0", secret := "outer" } : Client).Matches (.v4 ⟨192, 0, 2, 1⟩) := by
  have hhost : ((ofConfig .standard sampleClients).receive sampleDatagram (neighbour 1)).1
      = .ok (ofHeader (Utf8.ofString "host") sampleDatagram) := by
    have hfirst : sampleClients.FirstMatch (neighbour 1) 4
        { address := "2001:db8::1", secret := "host" } := by decide +kernel
    have hmatched := (receive_ofConfig .standard sampleClients sampleDatagram _).2.1 _ _ hfirst
    rw [hmatched, reading_sampleDatagram]
  refine ⟨?_, ?_, hhost, ?_, ?_, ?_, ?_, ?_⟩
  · have hfirst : sampleClients.FirstMatch (.v4 ⟨10, 1, 9, 9⟩) 2
        { address := "10.1.2.3/16", secret := "inner" } := by decide +kernel
    have hmatched := (receive_ofConfig .standard sampleClients sampleDatagram _).2.1 _ _ hfirst
    rw [hmatched, reading_sampleDatagram]
  · have hfirst : sampleClients.FirstMatch (.v4 ⟨192, 0, 2, 1⟩) 3
        { address := "0.0.0.0/0", secret := "outer" } := by decide +kernel
    have hmatched := (receive_ofConfig .standard sampleClients sampleDatagram _).2.1 _ _ hfirst
    rw [hmatched, reading_sampleDatagram]
  · have hnone : sampleClients.client? (neighbour 2) = none := by decide +kernel
    exact (receive_ofConfig .standard sampleClients sampleDatagram _).1.2
      ⟨List.cons_ne_nil _ _, Config.client?_eq_none_iff.1 hnone⟩
  · exact (receive_ofConfig .standard {} sampleDatagram _).2.2.1 rfl
  · exact (receive_ofConfig .standard sampleClients sampleDatagram _).2.2.2.1
      (List.cons_ne_nil _ _) _ hhost
  · have haddress : Address.read? "2001:db8::1".toList = some (neighbour 1) := by decide +kernel
    rw [(receive_ofConfig .standard {} [] _).2.2.2.2.1 _ _ haddress]
    decide +kernel
  · have hnetwork : ({ address := "0.0.0.0/0", secret := "outer" } : Client).network?
        = some ⟨.v4 ⟨0, 0, 0, 0⟩, 0, Nat.zero_le _⟩ := by decide +kernel
    exact ((receive_ofConfig .standard {} [] _).2.2.2.2.2 _ _ hnetwork rfl).2 ⟨rfl, rfl⟩

end Server

end Radius
