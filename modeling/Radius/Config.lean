import Radius.Address.Network
import Radius.Text.Utf8

/-!
# `Radius.Config`: which clients a server knows

A configuration has a default secret and a list of clients, each an address or a network
with a secret of its own. The first enabled client that covers a source decides its secret;
the default secret is for sources that no client covers. `Config.validate` finds the first
problem: the default secret, then each client in order with its secret before its address,
then the log level.
-/

set_option autoImplicit false

namespace Radius

/-- A client: where it is, its secret, and whether it counts. -/
structure Client where
  /-- The text of an address or a network. -/
  address : String
  secret : String
  name : Option String := none
  enabled : Bool := true
  deriving DecidableEq, Repr

/-- A configuration. -/
structure Config where
  /-- The default secret. -/
  secret : String := "testing123"
  clients : List Client := []
  /-- Datagrams are read by the length that they declare. -/
  strictLengthCheck : Bool := false
  logLevel : Option String := none
  deriving DecidableEq, Repr, Inhabited

/-- What makes a configuration invalid. -/
inductive Config.Problem
  | emptySecret
  | emptyClientSecret (address : String)
  | badClientAddress (address : String)
  | badLogLevel (level : String)
  deriving DecidableEq, Repr

/-- The wording of a problem. -/
def Config.Problem.message : Config.Problem → String
  | .emptySecret => "Secret cannot be empty"
  | .emptyClientSecret address => s!"Client {address} has empty secret"
  | .badClientAddress address => s!"Invalid client address: {address}"
  | .badLogLevel level => s!"Invalid log level: {level}"

namespace Client

/-- The network of a client. A bare address is a network of its own. -/
def network? (client : Client) : Option Network :=
  Network.read? client.address.toList

/-- The network of a client, or the problem with its address. -/
def network (client : Client) : Except Config.Problem Network :=
  match client.network? with
  | some network => .ok network
  | none => .error (.badClientAddress client.address)

/-- The client counts and the source is in its network. -/
def covers (client : Client) (source : Address) : Bool :=
  client.enabled &&
    match client.network? with
    | some network => network.contains source
    | none => false

/-- The problem with a client, if it has one. -/
def problem? (client : Client) : Option Config.Problem :=
  if client.secret = "" then some (.emptyClientSecret client.address)
  else
    match client.network? with
    | some _ => none
    | none => some (.badClientAddress client.address)

end Client

namespace Config

/-- A configuration to start from. -/
def sample : Config where
  secret := "testing123"
  clients := [
    { address := "192.168.1.0/24", secret := "client_secret_1",
      name := some "Internal Network" },
    { address := "10.0.0.1", secret := "client_secret_2", name := some "VPN Gateway" }]
  strictLengthCheck := true
  logLevel := some "info"

/-- The first client that covers a source. -/
def client? (config : Config) (source : Address) : Option Client :=
  config.clients.find? (·.covers source)

/-- The place in the list of the first client that covers a source. -/
def clientIndex? (config : Config) (source : Address) : Option Nat :=
  config.clients.findIdx? (·.covers source)

/-- The secret for packets from a source. -/
def secretFor (config : Config) (source : Address) : List UInt8 :=
  match config.client? source with
  | some client => Utf8.ofString client.secret
  | none => Utf8.ofString config.secret

/-- The log level, `info` unless the configuration says otherwise. -/
def effectiveLogLevel (config : Config) : String :=
  config.logLevel.getD "info"

/-- The log levels that a configuration may name. -/
def logLevels : List String :=
  ["trace", "debug", "info", "warn", "error"]

/-- The problem with the log level, if it has one. -/
def logLevelProblem? (config : Config) : Option Problem :=
  match config.logLevel with
  | some level => if level ∈ logLevels then none else some (.badLogLevel level)
  | none => none

/-- The first problem of a configuration, if it has one. -/
def problem? (config : Config) : Option Problem :=
  if config.secret = "" then some .emptySecret
  else
    match config.clients.findSome? Client.problem? with
    | some problem => some problem
    | none => config.logLevelProblem?

/-- Refuses a configuration with a problem. -/
def validate (config : Config) : Except Problem Unit :=
  match config.problem? with
  | some problem => .error problem
  | none => .ok ()

end Config

end Radius
