import Radius.Config.File

/-!
# `Radius.Proofs.Config.Validity`: what makes a configuration valid

Validation looks at the default secret, then at one client after the other, then at the log level,
and stops at the first thing that is wrong. Here is the same without an order of steps:

* `Config.Valid`: nothing is wrong anywhere. Every client is sound (`Client.Sound`), enabled or not.
* `Config.FirstProblem`: what is wrong first. If it is a client (`Client.Fault`), all clients before
  it in the list are sound.

`Config.validate_eq_ok_iff` and `Config.validate_eq_error_iff` say that validation decides the one
and reports the other. A configuration from a file is valid (`Config.valid_of_ofFile`).
-/

set_option autoImplicit false

namespace Radius

namespace Client

/-- The client has a secret, and its address spells a network. -/
structure Sound (client : Client) : Prop where
  keyed : client.secret ≠ ""
  placed : ∃ network, client.network = .ok network

/-- What is wrong with a client. The address counts only if the secret is right. -/
inductive Fault (client : Client) : Config.Problem → Prop
  | secret (h : client.secret = "") : Fault client (.emptyClientSecret client.address)
  | address (hkeyed : client.secret ≠ "")
      (h : client.network = .error (.badClientAddress client.address)) :
      Fault client (.badClientAddress client.address)

end Client

namespace Config

/-- Nothing is wrong with the configuration. -/
structure Valid (config : Config) : Prop where
  keyed : config.secret ≠ ""
  clients : ∀ client ∈ config.clients, client.Sound
  logLevel : ∀ level, config.logLevel = some level → level ∈ logLevels

/-- What is wrong first with the configuration. -/
inductive FirstProblem (config : Config) : Problem → Prop
  | secret (h : config.secret = "") : FirstProblem config .emptySecret
  | client {before after : List Client} {client : Client} {problem : Problem}
      (hkeyed : config.secret ≠ "") (hclients : config.clients = before ++ client :: after)
      (hbefore : ∀ other ∈ before, other.Sound) (h : client.Fault problem) :
      FirstProblem config problem
  | logLevel {level : String} (hkeyed : config.secret ≠ "")
      (hclients : ∀ client ∈ config.clients, client.Sound) (hlevel : config.logLevel = some level)
      (h : level ∉ logLevels) : FirstProblem config (.badLogLevel level)

end Config

variable {client : Client} {config : Config} {network : Network} {problem : Config.Problem}

/-! ### One client -/

namespace Client

/-- A network that is read is the network of the client. -/
theorem network_eq_ok_iff : client.network = .ok network ↔ client.network? = some network := by
  unfold Client.network
  cases client.network? with
  | some network => simp
  | none => simp

/-- An address that cannot be read is refused with the address. -/
theorem network_eq_error_iff :
    client.network = .error problem ↔
      client.network? = none ∧ problem = .badClientAddress client.address := by
  unfold Client.network
  cases client.network? with
  | some network => simp
  | none => simp [eq_comm]

/-- No problem is found with a client exactly if it is sound. -/
theorem problem?_eq_none_iff : client.problem? = none ↔ client.Sound := by
  unfold problem?
  by_cases hsecret : client.secret = ""
  · rw [if_pos hsecret]
    constructor
    · intro h
      cases h
    · intro h
      exact absurd hsecret h.keyed
  · rw [if_neg hsecret]
    cases hnetwork : client.network? with
    | some network =>
      exact iff_of_true rfl ⟨hsecret, network, network_eq_ok_iff.2 hnetwork⟩
    | none =>
      constructor
      · intro h
        cases h
      · rintro ⟨-, network, h⟩
        rw [network_eq_ok_iff, hnetwork] at h
        cases h

/-- The problem that is found is what is wrong with the client. -/
theorem problem?_eq_some_iff : client.problem? = some problem ↔ client.Fault problem := by
  constructor
  · intro h
    unfold problem? at h
    by_cases hsecret : client.secret = ""
    · rw [if_pos hsecret] at h
      cases h
      exact .secret hsecret
    · rw [if_neg hsecret] at h
      cases hnetwork : client.network? with
      | some network =>
        rw [hnetwork] at h
        cases h
      | none =>
        rw [hnetwork] at h
        cases h
        exact .address hsecret (network_eq_error_iff.2 ⟨hnetwork, rfl⟩)
  · intro h
    unfold problem?
    cases h with
    | secret hsecret => exact if_pos hsecret
    | address hkeyed haddress =>
      obtain ⟨hnetwork, -⟩ := network_eq_error_iff.1 haddress
      rw [if_neg hkeyed, hnetwork]

/-- What is wrong with a client is its secret or its address. -/
theorem Fault.secret_or_address (h : client.Fault problem) :
    client.secret = "" ∨ ∃ cause, client.network = .error cause := by
  cases h with
  | secret hsecret => exact .inl hsecret
  | address _ haddress => exact .inr ⟨_, haddress⟩

/-- With a sound client it is neither of the two. -/
theorem Sound.not_secret_or_address (h : client.Sound) :
    ¬ (client.secret = "" ∨ ∃ cause, client.network = .error cause) := by
  rintro (hsecret | ⟨cause, hrefused⟩)
  · exact h.keyed hsecret
  · obtain ⟨network, hnetwork⟩ := h.placed
    rw [hrefused] at hnetwork
    cases hnetwork

end Client

/-! ### The whole configuration -/

namespace Config

/-- The problem that is found with the log level is its name. -/
theorem logLevelProblem?_eq_some_iff :
    config.logLevelProblem? = some problem ↔
      ∃ level, config.logLevel = some level ∧ level ∉ logLevels ∧ problem = .badLogLevel level := by
  unfold logLevelProblem?
  cases config.logLevel with
  | none => simp
  | some level => simp [eq_comm]

/-- No problem is found with the log level exactly if it has one of the names, or is not set. -/
theorem logLevelProblem?_eq_none_iff :
    config.logLevelProblem? = none ↔ ∀ level, config.logLevel = some level → level ∈ logLevels := by
  unfold logLevelProblem?
  cases config.logLevel with
  | none => simp
  | some level => simp

/-- No problem is found with the clients exactly if all of them are sound. -/
theorem findSome?_problem?_eq_none_iff {clients : List Client} :
    clients.findSome? Client.problem? = none ↔ ∀ client ∈ clients, client.Sound := by
  simp only [List.findSome?_eq_none_iff, Client.problem?_eq_none_iff]

/-- No problem is found exactly if the configuration is valid. -/
theorem problem?_eq_none_iff : config.problem? = none ↔ config.Valid := by
  unfold problem?
  by_cases hsecret : config.secret = ""
  · rw [if_pos hsecret]
    constructor
    · intro h
      cases h
    · intro h
      exact absurd hsecret h.keyed
  · rw [if_neg hsecret]
    cases hclients : config.clients.findSome? Client.problem? with
    | some problem =>
      constructor
      · intro h
        cases h
      · intro h
        rw [findSome?_problem?_eq_none_iff.2 h.clients] at hclients
        cases hclients
    | none =>
      show config.logLevelProblem? = none ↔ _
      rw [logLevelProblem?_eq_none_iff]
      exact ⟨fun h => ⟨hsecret, findSome?_problem?_eq_none_iff.1 hclients, h⟩, Valid.logLevel⟩

/-- The problem that is found is the first. -/
theorem problem?_eq_some_iff : config.problem? = some problem ↔ config.FirstProblem problem := by
  constructor
  · intro h
    unfold problem? at h
    -- By the steps of validation. A later step means that the ones before it have found nothing.
    by_cases hsecret : config.secret = ""
    · rw [if_pos hsecret] at h
      cases h
      exact .secret hsecret
    rw [if_neg hsecret] at h
    cases hfound : config.clients.findSome? Client.problem? with
    | some found =>
      rw [hfound] at h
      cases h
      obtain ⟨before, client, after, hclients, hproblem, hbefore⟩ :=
        List.findSome?_eq_some_iff.1 hfound
      exact .client hsecret hclients
        (fun other hother => Client.problem?_eq_none_iff.1 (hbefore other hother))
        (Client.problem?_eq_some_iff.1 hproblem)
    | none =>
      rw [hfound] at h
      obtain ⟨level, hlevel, hunknown, rfl⟩ := logLevelProblem?_eq_some_iff.1 h
      exact .logLevel hsecret (findSome?_problem?_eq_none_iff.1 hfound) hlevel hunknown
  · intro h
    unfold problem?
    cases h with
    | secret hsecret => exact if_pos hsecret
    | client hkeyed hclients hbefore hfault =>
      have hfound : config.clients.findSome? Client.problem? = some problem :=
        List.findSome?_eq_some_iff.2 ⟨_, _, _, hclients, Client.problem?_eq_some_iff.2 hfault,
          fun other hother => Client.problem?_eq_none_iff.2 (hbefore other hother)⟩
      rw [if_neg hkeyed, hfound]
    | logLevel hkeyed hclients hlevel hunknown =>
      rw [if_neg hkeyed, findSome?_problem?_eq_none_iff.2 hclients]
      exact logLevelProblem?_eq_some_iff.2 ⟨_, hlevel, hunknown, rfl⟩

/-- Validation accepts exactly the valid configurations. -/
theorem validate_eq_ok_iff : config.validate = .ok () ↔ config.Valid := by
  rw [← problem?_eq_none_iff, validate]
  cases config.problem? with
  | some problem => simp
  | none => simp

/-- Validation reports the first problem. -/
theorem validate_eq_error_iff : config.validate = .error problem ↔ config.FirstProblem problem := by
  rw [← problem?_eq_some_iff, validate]
  cases config.problem? with
  | some problem => simp
  | none => simp

/-- There is a first problem exactly if anything is wrong at all. -/
theorem exists_firstProblem_iff :
    (∃ problem, config.FirstProblem problem) ↔
      config.secret = "" ∨
      (∃ client ∈ config.clients,
        client.secret = "" ∨ ∃ cause, client.network = .error cause) ∨
      ∃ level, config.logLevel = some level ∧ level ∉ logLevels := by
  constructor
  · rintro ⟨problem, h⟩
    cases h with
    | secret hsecret => exact .inl hsecret
    | @client before after client _ _ hclients _ hfault =>
      have hmem : client ∈ config.clients := by simp [hclients]
      exact .inr (.inl ⟨client, hmem, hfault.secret_or_address⟩)
    | logLevel _ _ hlevel hunknown => exact .inr (.inr ⟨_, hlevel, hunknown⟩)
  · intro h
    -- If no problem were found, nothing would be wrong in any of the three places.
    cases hproblem : config.problem? with
    | some problem => exact ⟨problem, problem?_eq_some_iff.1 hproblem⟩
    | none =>
      obtain ⟨hkeyed, hclients, hlevels⟩ := problem?_eq_none_iff.1 hproblem
      rcases h with hsecret | ⟨client, hclient, hwrong⟩ | ⟨level, hlevel, hunknown⟩
      · exact absurd hsecret hkeyed
      · exact absurd hwrong (hclients client hclient).not_secret_or_address
      · exact absurd (hlevels level hlevel) hunknown

/-- A configuration from a file is valid. -/
theorem valid_of_ofFile {bytes : List UInt8} (h : ofFile bytes = .ok config) : config.Valid := by
  unfold ofFile at h
  -- The bytes are text, and the text is a configuration. What is left is the check.
  split at h
  next => cases h
  next text _ =>
    split at h
    next => cases h
    next read _ =>
      cases hproblem : read.problem? with
      | some problem =>
        rw [hproblem] at h
        cases h
      | none =>
        rw [hproblem] at h
        cases h
        exact problem?_eq_none_iff.1 hproblem

end Config

end Radius
