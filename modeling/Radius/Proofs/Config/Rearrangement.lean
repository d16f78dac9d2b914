import Radius.Proofs.Config.Clients

/-!
# `Radius.Proofs.Config.Rearrangement`: lists of clients in another order

The first client that covers a source decides about it, so the order of the clients matters where
two of them cover one source. Where no two do (`Config.Exclusive`), it does not. Clients that cover
nothing (`Client.Idle`), because they are disabled or their addresses cannot be read, may also come
and go (`Config.Rearranged`).

* `Config.Rearranged.mem_iff`: a rearranged list has the same clients that match anything.
* `Config.client?_eq_some_iff_of_exclusive`: among exclusive clients the search finds whichever
  matches. No place in the list is mentioned any more.

So the search finds the same client (`Config.client?_of_rearranged`), and the secret is the same
(`Config.secretFor_of_rearranged`).
-/

set_option autoImplicit false

namespace Radius

/-- The client covers nothing: it is disabled, or its address spells no network. -/
def Client.Idle (client : Client) : Prop :=
  client.enabled = false ∨ client.network? = none

/-- The configuration with other clients. -/
def Config.withClients (config : Config) (clients : List Client) : Config :=
  { config with clients }

namespace Config

/-- One list of clients comes from another by bringing it into another order and by inserting and
removing idle clients, as often as one likes. -/
inductive Rearranged : List Client → List Client → Prop
  | reorder {clients others : List Client} (h : clients.Perm others) : Rearranged clients others
  | insert {client : Client} (before after : List Client) (h : client.Idle) :
    Rearranged (before ++ after) (before ++ client :: after)
  | remove {client : Client} (before after : List Client) (h : client.Idle) :
    Rearranged (before ++ client :: after) (before ++ after)
  | trans {clients between others : List Client} (first : Rearranged clients between)
    (second : Rearranged between others) : Rearranged clients others

/-- No source is in the networks of two different enabled clients. -/
def Exclusive (clients : List Client) : Prop :=
  ∀ client ∈ clients, ∀ other ∈ clients, client ≠ other →
    ∀ source, ¬ (client.Matches source ∧ other.Matches source)

end Config

variable {client : Client} {config : Config} {source : Address} {clients others : List Client}

/-- An idle client matches nothing. -/
theorem Client.Idle.not_matches (h : client.Idle) : ¬ client.Matches source := by
  rintro ⟨henabled, network, hnetwork, -⟩
  rcases h with hdisabled | hunreadable
  · rw [hdisabled] at henabled
    cases henabled
  · rw [hunreadable] at hnetwork
    cases hnetwork

namespace Config

/-! ### One list and the other -/

/-- Inserting an idle client adds none that matches a source. -/
theorem mem_insert_iff {idle : Client} (hidle : idle.Idle) (hfits : client.Matches source)
    (before after : List Client) :
    client ∈ before ++ idle :: after ↔ client ∈ before ++ after := by
  have hne : client ≠ idle := by
    rintro rfl
    exact hidle.not_matches hfits
  simp [hne]

/-- Both lists have the same clients that match a source. -/
theorem Rearranged.mem_iff (h : Rearranged clients others) (hfits : client.Matches source) :
    client ∈ clients ↔ client ∈ others := by
  induction h with
  | reorder hperm => exact hperm.mem_iff
  | insert before after hidle => exact (mem_insert_iff hidle hfits before after).symm
  | remove before after hidle => exact mem_insert_iff hidle hfits before after
  | trans _ _ ihfirst ihsecond => exact ihfirst.trans ihsecond

/-- A rearranged list is exclusive if the list was. -/
theorem Rearranged.exclusive (h : Rearranged clients others) (hexclusive : Exclusive clients) :
    Exclusive others := by
  intro client hclient other hother hne source hboth
  exact hexclusive client ((h.mem_iff hboth.1).2 hclient) other ((h.mem_iff hboth.2).2 hother) hne
    source hboth

/-! ### The search -/

/-- Among exclusive clients the search finds whichever matches the source. -/
theorem client?_eq_some_iff_of_exclusive (h : Exclusive config.clients) :
    config.client? source = some client ↔ client ∈ config.clients ∧ client.Matches source := by
  constructor
  · intro hfound
    obtain ⟨i, hfirst⟩ := client?_eq_some_iff.1 hfound
    exact ⟨List.mem_of_getElem? hfirst.here, hfirst.fits⟩
  · rintro ⟨hmem, hfits⟩
    obtain ⟨i, hhere⟩ := List.mem_iff_getElem?.1 hmem
    obtain ⟨j, other, -, hfirst⟩ := exists_firstMatch_le hhere hfits
    -- The first match is this client, for no other one matches the source.
    have hsame : client = other := by
      refine Decidable.byContradiction fun hne => ?_
      exact h client hmem other (List.mem_of_getElem? hfirst.here) hne source ⟨hfits, hfirst.fits⟩
    rw [hsame]
    exact client?_eq_some_iff.2 ⟨j, hfirst⟩

/-- The search finds the same client in a rearranged list. -/
theorem client?_of_rearranged (h : Rearranged config.clients clients)
    (hexclusive : Exclusive config.clients) (source : Address) :
    (config.withClients clients).client? source = config.client? source := by
  refine Option.ext fun client => ?_
  rw [client?_eq_some_iff_of_exclusive hexclusive,
    client?_eq_some_iff_of_exclusive (h.exclusive hexclusive)]
  exact and_congr_left fun hfits => (h.mem_iff hfits).symm

/-- The source has the same secret. -/
theorem secretFor_of_rearranged (h : Rearranged config.clients clients)
    (hexclusive : Exclusive config.clients) (source : Address) :
    (config.withClients clients).secretFor source = config.secretFor source := by
  rw [secretFor, secretFor, client?_of_rearranged h hexclusive]
  rfl

/-- Where nothing is left of a list, no client in it matches anything. -/
theorem client?_eq_none_of_rearranged_nil (h : Rearranged config.clients []) (source : Address) :
    config.client? source = none := by
  refine List.find?_eq_none.2 fun client hclient hcovers => ?_
  exact List.not_mem_nil ((h.mem_iff (Client.covers_iff.1 hcovers)).1 hclient)

end Config

end Radius
