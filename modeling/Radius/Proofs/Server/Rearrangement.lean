import Radius.Proofs.Config.Rearrangement
import Radius.Proofs.Server.Admission

/-!
# `Radius.Proofs.Server.Rearrangement`: servers with their clients in another order

A server asks its configuration whether a source is admitted and which secret it has. For exclusive
clients neither answer depends on their order, nor on idle clients among them, with one exception:
a server without clients admits every source. So an idle client counts after all if it is the only
one (`admits_of_rearranged`, `receive_of_rearranged_nil`).

`receive_rearranged` is what this means for the packets.
-/

set_option autoImplicit false

namespace Radius.Server

/-- Two servers that are the same but for the clients of their configurations. -/
structure SameButClients (server other : Server) (config : Config) (clients : List Client) :
    Prop where
  before : server.config? = some config
  after : other.config? = some (config.withClients clients)
  dictionary : other.dictionary = server.dictionary
  reader : other.reader = server.reader

section
variable {server other : Server} {config : Config} {clients : List Client} {source : Address}

/-- The servers that two such configurations describe. -/
theorem sameButClients_ofConfig (dictionary : Dictionary) (config : Config)
    (clients : List Client) :
    SameButClients (ofConfig dictionary config) (ofConfig dictionary (config.withClients clients))
      config clients :=
  ⟨rfl, rfl, rfl, rfl⟩

/-- The source has the same secret from both servers. -/
theorem secretFor_of_rearranged (hservers : SameButClients server other config clients)
    (h : Config.Rearranged config.clients clients) (hexclusive : Config.Exclusive config.clients) :
    other.secretFor source = server.secretFor source := by
  rw [secretFor, secretFor, hservers.before, hservers.after]
  exact Config.secretFor_of_rearranged h hexclusive source

/-- Both admit the same sources, as long as both have clients. -/
theorem admits_of_rearranged (hservers : SameButClients server other config clients)
    (h : Config.Rearranged config.clients clients) (hexclusive : Config.Exclusive config.clients)
    (hbefore : config.clients ≠ []) (hafter : clients ≠ []) :
    other.admits source = server.admits source := by
  rw [admits, admits, hservers.before, hservers.after]
  dsimp only
  rw [Config.client?_of_rearranged h hexclusive, List.isEmpty_eq_false_iff.2 hbefore]
  show (clients.isEmpty || _) = _
  rw [List.isEmpty_eq_false_iff.2 hafter]

/-- If the last idle client is removed, every source was refused before and is admitted after. -/
theorem receive_of_rearranged_nil (hservers : SameButClients server other config [])
    (h : Config.Rearranged config.clients []) (hbefore : config.clients ≠ [])
    (data : List UInt8) :
    (server.receive data source).1 = .error (.invalidClient source) ∧
      (other.receive data source).1
        = (server.reader server.dictionary (Utf8.ofString config.secret) data).mapError
          .packet := by
  have hrefused : server.admits source = false := by
    rw [admits, hservers.before]
    dsimp only
    rw [Config.client?_eq_none_of_rearranged_nil h, List.isEmpty_eq_false_iff.2 hbefore]
    rfl
  have hadmitted : other.admits source = true := by
    rw [admits, hservers.after]
    rfl
  have hsecret : other.secretFor source = Utf8.ofString config.secret := by
    rw [secretFor, hservers.after]
    rfl
  rw [receive_eq, receive_eq, hrefused, hadmitted, hsecret, hservers.reader, hservers.dictionary]
  exact ⟨rfl, rfl⟩

/-- What becomes of sources and their datagrams if the clients of a server are brought into another
order, and clients that are disabled or cannot be read are inserted or removed. No source is in the
networks of two different enabled clients.

* Every source belongs to the same client, and has the same secret.
* The server receives the same, with the same events, as long as there are clients before and after.
* If no clients are left, every source was refused before, and its datagrams are read with the
  default secret after. -/
theorem receive_rearranged (hservers : SameButClients server other config clients)
    (h : Config.Rearranged config.clients clients)
    (hexclusive : Config.Exclusive config.clients) :
    (∀ source, (config.withClients clients).client? source = config.client? source ∧
      (config.withClients clients).secretFor source = config.secretFor source) ∧
    (config.clients ≠ [] → clients ≠ [] → ∀ (data : List UInt8) (source : Address),
      other.receive data source = server.receive data source) ∧
    (config.clients ≠ [] → clients = [] → ∀ (data : List UInt8) (source : Address),
      (server.receive data source).1 = .error (.invalidClient source) ∧
      (other.receive data source).1
        = (server.reader server.dictionary (Utf8.ofString config.secret) data).mapError
            .packet) := by
  refine ⟨?_, ?_, ?_⟩
  · intro source
    exact ⟨Config.client?_of_rearranged h hexclusive source,
      Config.secretFor_of_rearranged h hexclusive source⟩
  · intro hbefore hafter data source
    exact receive_congr hservers.dictionary hservers.reader
      (admits_of_rearranged hservers h hexclusive hbefore hafter)
      (secretFor_of_rearranged hservers h hexclusive) data
  · rintro hbefore rfl data source
    exact receive_of_rearranged_nil hservers h hbefore data

end

/-- One host. -/
def gateway : Client where
  address := "10.0.0.1"
  secret := "gateway"

/-- Another host. -/
def controller : Client where
  address := "10.0.0.2"
  secret := "controller"

/-- A network around both that is disabled. -/
def retired : Client where
  address := "10.0.0.0/8"
  secret := "retired"
  enabled := false

/-- The two hosts, with the network between them. -/
def twoHosts : Config where
  clients := [gateway, retired, controller]

/-- The disabled network matches no source. -/
theorem retired_idle : retired.Idle := .inl rfl

/-- No source is both hosts. -/
theorem exclusive_twoHosts : Config.Exclusive twoHosts.clients := by
  have hgateway : Address.read? gateway.address.toList = some (.v4 ⟨10, 0, 0, 1⟩) := by
    decide +kernel
  have hcontroller : Address.read? controller.address.toList = some (.v4 ⟨10, 0, 0, 2⟩) := by
    decide +kernel
  have hmatches : ∀ client ∈ twoHosts.clients, ∀ source, client.Matches source →
      client = gateway ∧ source = .v4 ⟨10, 0, 0, 1⟩ ∨
        client = controller ∧ source = .v4 ⟨10, 0, 0, 2⟩ := by
    intro client hclient source hfits
    simp only [twoHosts, List.mem_cons, List.not_mem_nil, or_false] at hclient
    rcases hclient with rfl | rfl | rfl
    · exact .inl ⟨rfl, ((Client.matches_of_address hgateway).1 hfits).2⟩
    · exact absurd hfits retired_idle.not_matches
    · exact .inr ⟨rfl, ((Client.matches_of_address hcontroller).1 hfits).2⟩
  rintro client hclient other hother hne source ⟨hfits, hotherFits⟩
  rcases hmatches client hclient source hfits with ⟨rfl, rfl⟩ | ⟨rfl, rfl⟩
  · rcases hmatches other hother _ hotherFits with ⟨rfl, -⟩ | ⟨-, hsource⟩
    · exact hne rfl
    · exact absurd hsource (by decide)
  · rcases hmatches other hother _ hotherFits with ⟨-, hsource⟩ | ⟨rfl, -⟩
    · exact absurd hsource (by decide)
    · exact hne rfl

/-- The hosts may change places, and the disabled network may go. If it is the only client, its
going opens the server to everyone. -/
theorem receive_rearranged_twoHosts :
    (∀ (data : List UInt8) (source : Address),
      (ofConfig .standard (twoHosts.withClients [controller, gateway])).receive data source
        = (ofConfig .standard twoHosts).receive data source) ∧
    ∀ (data : List UInt8) (source : Address),
      ((ofConfig .standard { clients := [retired] }).receive data source).1
        = .error (.invalidClient source) ∧
      ((ofConfig .standard {}).receive data source).1
        = (Packet.decode .standard (Utf8.ofString "testing123") data).mapError .packet := by
  constructor
  · have hlists : Config.Rearranged twoHosts.clients [controller, gateway] :=
      .trans (.remove [gateway] [controller] retired_idle)
        (.reorder (List.Perm.swap controller gateway []))
    obtain ⟨-, hsame, -⟩ := receive_rearranged
      (sameButClients_ofConfig .standard twoHosts [controller, gateway]) hlists exclusive_twoHosts
    exact hsame (List.cons_ne_nil _ _) (List.cons_ne_nil _ _)
  · have hlists : Config.Rearranged [retired] [] := .remove [] [] retired_idle
    have hexclusive : Config.Exclusive [retired] := by
      rintro client hclient other - - source ⟨hfits, -⟩
      rw [List.mem_singleton.1 hclient] at hfits
      exact retired_idle.not_matches hfits
    obtain ⟨-, -, hopened⟩ := receive_rearranged
      (sameButClients_ofConfig .standard { clients := [retired] } []) hlists hexclusive
    exact hopened (List.cons_ne_nil _ _) rfl

end Radius.Server
