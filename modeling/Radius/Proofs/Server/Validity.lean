import Radius.Proofs.Config.Validity
import Radius.Proofs.Packet.Grammar
import Radius.Proofs.Server.Admission

/-!
# `Radius.Proofs.Server.Validity`: what validation is worth when a datagram comes

Validation looks at a configuration once, and the server looks at it for every datagram. The secret
that it takes from there goes a long way: through the reader, into the packet, to the codec of
hidden passwords, which refuses to work without one. Two things meet here:

* `ne_missingSecret_of_readers`: with a secret no reader misses one, whatever the datagram holds.
  The only fault that could say so is that of a record (`RecordFault`), and with a secret no codec
  of the library has this fault (`Stock.decode_ne_missingSecret`).
* `exists_secretFor`: with a valid configuration there is a secret for every source. The client that
  the source belongs to has one, and so has the configuration itself.

That a client is sound also means that it has a network, so it cannot be left out silently: a source
in there is admitted (`receive_of_matches`). `receive_of_validate` says all of this, and what
validation refuses.
-/

set_option autoImplicit false

namespace Radius

open Packet

/-- Only the empty text has no bytes. -/
theorem Utf8.ofString_ne_nil {text : String} (h : text ≠ "") : ofString text ≠ [] := by
  intro hnil
  have hback := toString?_ofString text
  rw [hnil] at hback
  have hempty : toString? [] = some "" := by
    simp only [toString?, decode?, Option.map_some]
  rw [hempty] at hback
  exact h (Option.some.inj hback).symm

/-! ### Nothing misses a secret that is there -/

section
variable [Digest]

/-- A hidden form is refused for its length or for its text. -/
theorem Password.reveal_ne_missingSecret (hidden secret : List UInt8) (authenticator : Block) :
    reveal hidden secret authenticator ≠ .error .missingSecret := by
  intro h
  by_cases hpartial : hidden.length = 0 ∨ hidden.length % 16 ≠ 0
  · rw [reveal_of_not_whole hpartial] at h
    cases h
  · rw [not_or, not_not] at hpartial
    rw [reveal_of_whole hpartial.1 hpartial.2] at h
    cases htext : Utf8.toString? (dropPadding (revealedBytes hidden secret authenticator)) with
    | some text =>
      rw [htext] at h
      cases h
    | none =>
      rw [htext] at h
      cases h

/-- With a secret no codec of the library misses one. -/
theorem Codec.Stock.decode_ne_missingSecret {codec : Codec} {p : Packet} (hcodec : codec.Stock)
    (hsecret : p.secret ≠ []) (bytes : List UInt8) :
    codec.decode p bytes ≠ .error .missingSecret := by
  intro h
  -- Only a password is read with the secret. The other codecs look at the bytes alone.
  cases hcodec with
  | text =>
    simp only [Codec.text, textOfBytes] at h
    split at h
    next => cases h
    next => cases h
  | octets => cases h
  | integer =>
    simp only [Codec.integer] at h
    split at h
    next => cases h
    next => cases h
  | address =>
    simp only [Codec.address, addressOfBytes] at h
    split at h
    next => cases h
    next => cases h
  | userPassword =>
    have hkeyed : ¬ p.secret.isEmpty = true := by simpa using hsecret
    simp only [Codec.userPassword, if_neg hkeyed] at h
    cases hreveal : Password.reveal bytes p.secret p.authenticator with
    | ok password =>
      rw [hreveal] at h
      cases h
    | error cause =>
      rw [hreveal] at h
      cases h
      exact Password.reveal_ne_missingSecret _ _ _ hreveal

namespace Packet

variable {dictionary : Dictionary} {secret data bytes : List UInt8} {key : Packet}

/-- With a secret no record is refused for a missing one. -/
theorem not_recordFault_missingSecret (hstock : ∀ type, (dictionary.codec type).Stock)
    (hsecret : key.secret ≠ []) :
    ¬ RecordFault dictionary key bytes (.codec .missingSecret) := by
  intro h
  -- The other two faults are found before a codec is asked.
  cases h with
  | codec _ hrefused => exact (hstock _).decode_ne_missingSecret hsecret _ hrefused

/-- So no row of records is. -/
theorem readBody_ne_missingSecret (hstock : ∀ type, (dictionary.codec type).Stock)
    (hsecret : secret ≠ []) (hlong : 20 ≤ data.length) :
    readBody dictionary secret data ≠ .error (.codec .missingSecret) := by
  intro h
  rw [readBody_eq hlong, readRecords_eq_error_iff hstock] at h
  obtain ⟨-, -, -, hfault⟩ := h
  exact not_recordFault_missingSecret hstock hsecret hfault

/-- With a secret no reader misses one. -/
theorem ne_missingSecret_of_readers (hstock : ∀ type, (dictionary.codec type).Stock)
    {reader : Reader} (hreader : reader = decode ∨ reader = decodeStrict) (hsecret : secret ≠ []) :
    reader dictionary secret data ≠ .error (.codec .missingSecret) := by
  intro h
  rcases fault_of_readers hreader h with hcause | hcause | ⟨part, hlong, hbody⟩
  · cases hcause
  · cases hcause
  · exact readBody_ne_missingSecret hstock hsecret hlong hbody

end Packet

/-- What the reader of a configuration makes of a datagram is not that either. -/
theorem Config.reading_ne_missingSecret {dictionary : Dictionary}
    (hstock : ∀ type, (dictionary.codec type).Stock) (config : Config) {secret : String}
    (hsecret : secret ≠ "") (data : List UInt8) :
    config.reading dictionary secret data ≠ .error (.packet (.codec .missingSecret)) := by
  obtain ⟨reader, hreader, hreading⟩ := config.exists_reader
  rw [hreading]
  intro h
  cases hread : reader dictionary (Utf8.ofString secret) data with
  | ok packet =>
    rw [hread] at h
    cases h
  | error cause =>
    rw [hread] at h
    cases h
    exact ne_missingSecret_of_readers hstock hreader (Utf8.ofString_ne_nil hsecret) hread

end

namespace Server

section
variable {dictionary : Dictionary} {config : Config} {source : Address} {client : Client} {i : Nat}

/-! ### Every source has a secret -/

/-- With a valid configuration every source has a secret: that of a client, or the default one. -/
theorem exists_secretFor (h : config.Valid) (dictionary : Dictionary) (source : Address) :
    ∃ secret, secret ≠ "" ∧ (ofConfig dictionary config).secretFor source
      = Utf8.ofString secret := by
  show ∃ secret, secret ≠ "" ∧ config.secretFor source = Utf8.ofString secret
  unfold Config.secretFor
  cases hfound : config.client? source with
  | some client =>
    have hmem : client ∈ config.clients := List.mem_of_find?_eq_some hfound
    exact ⟨client.secret, (h.clients client hmem).keyed, rfl⟩
  | none => exact ⟨config.secret, h.keyed, rfl⟩

/-- With a valid configuration a datagram is read with a secret, or its source is refused. -/
theorem receive_cases_of_valid (h : config.Valid) (dictionary : Dictionary) (data : List UInt8)
    (source : Address) :
    ((ofConfig dictionary config).receive data source).1 = .error (.invalidClient source) ∨
    ∃ secret, secret ≠ "" ∧
      ((ofConfig dictionary config).receive data source).1
        = config.reading dictionary secret data := by
  cases hadmits : (ofConfig dictionary config).admits source with
  | false =>
    refine .inl ?_
    rw [receive_eq, hadmits]
    rfl
  | true =>
    obtain ⟨secret, hne, hsecret⟩ := exists_secretFor h dictionary source
    exact .inr ⟨secret, hne, receive_of_admits hadmits hsecret⟩

/-- So no datagram is refused for a missing secret. -/
theorem receive_ne_missingSecret [Digest] (hstock : ∀ type, (dictionary.codec type).Stock)
    (h : config.Valid) (data : List UInt8) (source : Address) :
    ((ofConfig dictionary config).receive data source).1
      ≠ .error (.packet (.codec .missingSecret)) := by
  rcases receive_cases_of_valid h dictionary data source with hrefused | ⟨secret, hne, hread⟩
  · rw [hrefused]
    intro hmissing
    cases hmissing
  · rw [hread]
    exact Config.reading_ne_missingSecret hstock config hne data

/-- And every packet has a secret. -/
theorem secret_ne_nil_of_receive (h : config.Valid) {data : List UInt8} {packet : Packet}
    (hreceived : ((ofConfig dictionary config).receive data source).1 = .ok packet) :
    packet.secret ≠ [] := by
  rcases receive_cases_of_valid h dictionary data source with hrefused | ⟨secret, hne, hread⟩
  · rw [hrefused] at hreceived
    cases hreceived
  · rw [hread] at hreceived
    rw [secret_of_reading hreceived]
    exact Utf8.ofString_ne_nil hne

/-! ### No client is left out -/

/-- A sound client that is enabled matches every source in its network. -/
theorem matches_of_sound (h : client.Sound) (henabled : client.enabled = true) :
    ∃ network, client.network = .ok network ∧ ∀ source, network.Covers source →
      client.Matches source := by
  obtain ⟨network, hnetwork⟩ := h.placed
  refine ⟨network, hnetwork, ?_⟩
  intro source hcovers
  exact ⟨henabled, network, Client.network_eq_ok_iff.1 hnetwork, hcovers⟩

/-- A source that a client matches is admitted, and read with the secret of that client or of one
before it. -/
theorem receive_of_matches (hhere : config.clients[i]? = some client)
    (hfits : client.Matches source) (dictionary : Dictionary) (data : List UInt8) :
    (ofConfig dictionary config).admits source = true ∧
      ∃ j other, j ≤ i ∧ config.FirstMatch source j other ∧
        (ofConfig dictionary config).secretFor source = Utf8.ofString other.secret ∧
        ((ofConfig dictionary config).receive data source).1
          = config.reading dictionary other.secret data := by
  obtain ⟨j, other, hle, hfirst⟩ := Config.exists_firstMatch_le hhere hfits
  have hadmits : (ofConfig dictionary config).admits source = true :=
    admits_ofConfig_iff.2 (.inr ⟨j, other, hfirst⟩)
  have hsecret : (ofConfig dictionary config).secretFor source = Utf8.ofString other.secret :=
    secretFor_of_firstMatch hfirst
  exact ⟨hadmits, j, other, hle, hfirst, hsecret, receive_of_admits hadmits hsecret⟩

end

/-- What validation has to do with what a server does. The server is the one that a configuration
describes, with a dictionary of the codecs of the library.

* If validation accepts the configuration, no datagram from any source is refused for a missing
  secret, and every packet has a secret. Every enabled client has a network, and a source in there
  is admitted and has the secret of the client, or that of a client before it in the list.
* A configuration that is read from a file is accepted.
* Validation refuses a configuration exactly if the default secret is empty, some client has an
  empty secret or an address that is no network, or the log level has none of the five names. It
  reports the first of these (`Config.FirstProblem`). -/
theorem receive_of_validate [Digest] {dictionary : Dictionary}
    (hbuilt : dictionary.BuiltFrom Codec.Stock) (config : Config) :
    (config.validate = .ok () → ∀ (data : List UInt8) (source : Address),
      ((ofConfig dictionary config).receive data source).1
        ≠ .error (.packet (.codec .missingSecret)) ∧
      (∀ packet, ((ofConfig dictionary config).receive data source).1 = .ok packet →
        packet.secret ≠ []) ∧
      ∀ (i : Nat) client, config.clients[i]? = some client → client.enabled = true →
        ∃ network, client.network = .ok network ∧
          (network.Covers source →
            (ofConfig dictionary config).admits source = true ∧
            ∃ j other, j ≤ i ∧ config.FirstMatch source j other ∧
              (ofConfig dictionary config).secretFor source = Utf8.ofString other.secret ∧
              ((ofConfig dictionary config).receive data source).1
                = config.reading dictionary other.secret data)) ∧
    (∀ bytes, Config.ofFile bytes = .ok config → config.validate = .ok ()) ∧
    ((∃ problem, config.validate = .error problem) ↔
      config.secret = "" ∨
      (∃ client ∈ config.clients,
        client.secret = "" ∨ ∃ cause, client.network = .error cause) ∨
      ∃ level, config.logLevel = some level ∧
        level ∉ ["trace", "debug", "info", "warn", "error"]) ∧
    ∀ problem, config.validate = .error problem ↔ config.FirstProblem problem := by
  refine ⟨?_, ?_, ?_, fun _ => Config.validate_eq_error_iff⟩
  · intro haccepted data source
    have hvalid := Config.validate_eq_ok_iff.1 haccepted
    refine ⟨receive_ne_missingSecret hbuilt.stock hvalid data source,
      fun _ => secret_ne_nil_of_receive hvalid, ?_⟩
    intro i client hhere henabled
    have hsound := hvalid.clients client (List.mem_of_getElem? hhere)
    obtain ⟨network, hnetwork, hfits⟩ := matches_of_sound hsound henabled
    exact ⟨network, hnetwork,
      fun hcovers => receive_of_matches hhere (hfits source hcovers) dictionary data⟩
  · intro bytes hfile
    exact Config.validate_eq_ok_iff.2 (Config.valid_of_ofFile hfile)
  · simp only [Config.validate_eq_error_iff]
    exact Config.exists_firstProblem_iff

/-- A configuration with four problems: the second client has no secret and no network, the third
has no network, and the log level is unknown. -/
def fourProblems : Config where
  clients := [
    { address := "10.0.0.1", secret := "first" },
    { address := "10.0.0.0/33", secret := "" },
    { address := "somewhere", secret := "third", enabled := false }]
  logLevel := some "loud"

/-- The sample configuration is valid. A datagram from its first network is read with the secret of
that client. Of the four problems validation reports the missing secret of the second client. -/
theorem receive_of_validate_sample :
    Config.sample.validate = .ok () ∧
      ((ofConfig .standard .sample).receive sampleDatagram (.v4 ⟨192, 168, 1, 77⟩)).1
        = Config.sample.reading .standard "client_secret_1" sampleDatagram ∧
      fourProblems.validate = .error (.emptyClientSecret "10.0.0.0/33") := by
  have haccepted : Config.sample.validate = .ok () := by decide +kernel
  obtain ⟨hvalid, -⟩ := receive_of_validate Dictionary.builtFrom_standard Config.sample
  obtain ⟨-, -, hclients⟩ := hvalid haccepted sampleDatagram (.v4 ⟨192, 168, 1, 77⟩)
  obtain ⟨network, hnetwork, hread⟩ := hclients 0 _ rfl rfl
  refine ⟨haccepted, ?_, ?_⟩
  · have hcontains : Client.covers
        { address := "192.168.1.0/24", secret := "client_secret_1",
          name := some "Internal Network" } (.v4 ⟨192, 168, 1, 77⟩) = true := by decide +kernel
    obtain ⟨-, other, hother, hcovers⟩ := Client.covers_iff.1 hcontains
    obtain rfl : network = other := by
      have hsame := (Client.network_eq_ok_iff.1 hnetwork).symm.trans hother
      exact Option.some.inj hsame
    -- No client stands before the first.
    obtain ⟨-, j, client, hle, hfirst, -, hreceived⟩ := hread hcovers
    obtain rfl : j = 0 := Nat.le_zero.1 hle
    obtain rfl := Option.some.inj hfirst.here
    exact hreceived
  · obtain ⟨-, -, -, hproblem⟩ := receive_of_validate Dictionary.builtFrom_standard fourProblems
    rw [hproblem]
    have hbefore : ∀ other ∈ [({ address := "10.0.0.1", secret := "first" } : Client)],
        other.Sound := by
      intro other hother
      obtain rfl := List.mem_singleton.1 hother
      exact Client.problem?_eq_none_iff.1 (by decide +kernel)
    exact .client (by decide) rfl hbefore (.secret rfl)

end Server

end Radius
