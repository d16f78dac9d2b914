import Radius.Config
import Radius.Proofs.Address.Network

/-!
# `Radius.Proofs.Config.Clients`: whose packet it is

A configuration looks a source up in its list of clients. The look-up is a search with a Boolean
test. `Config.FirstMatch` says what it finds without searching: the client at the least place whose
client is enabled and covers the source (`Client.Matches`).

* `Client.covers_iff`: the test of the search is `Client.Matches`. A client whose address cannot be
  read matches nothing.
* `Config.client?_eq_some_iff` and `Config.client?_eq_none_iff`: the search finds the first match,
  and finds nothing exactly if there is none. `Config.firstMatch_iff` says the same of the search
  for its place.
-/

set_option autoImplicit false

namespace Radius

variable {client : Client} {config : Config} {address source : Address} {network : Network}
  {i : Nat}

namespace Client

/-- The client is enabled, and its address spells a network that covers the source. -/
def Matches (client : Client) (source : Address) : Prop :=
  client.enabled = true ∧ ∃ network, client.network? = some network ∧ network.Covers source

/-- The test of the search. -/
theorem covers_iff : client.covers source = true ↔ client.Matches source := by
  rw [covers, Matches, Bool.and_eq_true]
  refine and_congr_right fun _ => ?_
  cases client.network? with
  | none => simp
  | some network => simp [Network.contains_iff]

/-- A client with the address of a network without leading bits matches its whole family. -/
theorem matches_of_length_zero (h : client.network? = some network) (hlength : network.length = 0) :
    client.Matches source ↔
      client.enabled = true ∧ network.address.sameFamily source = true := by
  rw [Matches, h]
  simp [Network.covers_of_length_zero hlength]

/-- A client with the address of one host matches that host alone. -/
theorem matches_of_address (h : Address.read? client.address.toList = some address) :
    client.Matches source ↔ client.enabled = true ∧ source = address := by
  have hnetwork : client.network? = some (.host address) := Network.read?_of_address h
  rw [Matches, hnetwork]
  simp [Network.covers_host]

end Client

namespace Config

/-- The client is in the list, at the least place of one that matches the source. -/
structure FirstMatch (config : Config) (source : Address) (i : Nat) (client : Client) : Prop where
  here : config.clients[i]? = some client
  fits : client.Matches source
  least : ∀ j other, j < i → config.clients[j]? = some other → ¬ other.Matches source

/-- The first match in terms of the test of the search. -/
theorem firstMatch_iff_covers :
    config.FirstMatch source i client ↔
      ∃ h : i < config.clients.length, config.clients[i] = client ∧
        client.covers source = true ∧
        ∀ j (hj : j < i), config.clients[j].covers source = false := by
  constructor
  · rintro ⟨hhere, hfits, hleast⟩
    obtain ⟨hi, hclient⟩ := List.getElem?_eq_some_iff.1 hhere
    refine ⟨hi, hclient, Client.covers_iff.2 hfits, fun j hj => ?_⟩
    have hother := hleast j _ hj (List.getElem?_eq_getElem (Nat.lt_trans hj hi))
    rwa [← Client.covers_iff, Bool.not_eq_true] at hother
  · rintro ⟨hi, hclient, hcovers, hbefore⟩
    refine ⟨List.getElem?_eq_some_iff.2 ⟨hi, hclient⟩, Client.covers_iff.1 hcovers, ?_⟩
    intro j other hj hother hmatches
    obtain ⟨_, rfl⟩ := List.getElem?_eq_some_iff.1 hother
    have hrefused := hbefore j hj
    rw [Client.covers_iff.2 hmatches] at hrefused
    cases hrefused

/-- The search for the client finds the first match. -/
theorem client?_eq_some_iff :
    config.client? source = some client ↔ ∃ i, config.FirstMatch source i client := by
  simp only [client?, List.find?_eq_some_iff_getElem, firstMatch_iff_covers, Bool.not_eq_true']
  constructor
  · rintro ⟨hcovers, i, hi, hclient, hbefore⟩
    exact ⟨i, hi, hclient, hcovers, hbefore⟩
  · rintro ⟨i, hi, hclient, hcovers, hbefore⟩
    exact ⟨hcovers, i, hi, hclient, hbefore⟩

/-- The search for its place agrees. -/
theorem firstMatch_iff :
    config.FirstMatch source i client ↔
      config.clientIndex? source = some i ∧ config.clients[i]? = some client := by
  simp only [clientIndex?, List.findIdx?_eq_some_iff_getElem, firstMatch_iff_covers,
    Bool.not_eq_true, List.getElem?_eq_some_iff]
  constructor
  · rintro ⟨hi, rfl, hcovers, hbefore⟩
    exact ⟨⟨hi, hcovers, hbefore⟩, hi, rfl⟩
  · rintro ⟨⟨hi, hcovers, hbefore⟩, _, rfl⟩
    exact ⟨hi, rfl, hcovers, hbefore⟩

instance (config : Config) (source : Address) (i : Nat) (client : Client) :
    Decidable (config.FirstMatch source i client) :=
  decidable_of_iff _ firstMatch_iff.symm

/-- Without a first match nothing is found. -/
theorem client?_eq_none_iff :
    config.client? source = none ↔ ¬ ∃ i client, config.FirstMatch source i client := by
  constructor
  · rintro hnone ⟨i, client, hfirst⟩
    have hsome := client?_eq_some_iff.2 ⟨i, hfirst⟩
    rw [hnone] at hsome
    cases hsome
  · intro hno
    cases hfound : config.client? source with
    | none => rfl
    | some client =>
      obtain ⟨i, hfirst⟩ := client?_eq_some_iff.1 hfound
      exact absurd ⟨i, client, hfirst⟩ hno

/-- If a client matches the source, the first match is there or before it. -/
theorem exists_firstMatch_le (hhere : config.clients[i]? = some client)
    (hfits : client.Matches source) :
    ∃ j other, j ≤ i ∧ config.FirstMatch source j other := by
  cases hfound : config.client? source with
  | none =>
    have hrefused := List.find?_eq_none.1 hfound client (List.mem_of_getElem? hhere)
    exact absurd (Client.covers_iff.2 hfits) hrefused
  | some other =>
    obtain ⟨j, hfirst⟩ := client?_eq_some_iff.1 hfound
    refine ⟨j, other, ?_, hfirst⟩
    -- Before a later match this client would have been found.
    rw [← Nat.not_lt]
    exact fun hlate => hfirst.least i client hlate hhere hfits

end Config

end Radius
