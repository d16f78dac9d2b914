import Radius.Config
import Radius.Json.Reader
import Radius.Json.Writer

/-!
# `Radius.Config.File`: configurations in files

A file holds a configuration as JSON. A field may be missing if there is a value for it to
fall back on; a client has to have its address and its secret. `Config.ofFile` accepts valid
configurations only. `Config.written` is what goes into a file.
-/

set_option autoImplicit false

namespace Radius

/-- Why a file cannot be read or written. -/
inductive FileFault
  | notFound
  | notDirectory
  | isDirectory
  | nameTooLong
  | notText
  | other (message : String)
  deriving DecidableEq, Repr

/-- The wording of a file's fault. -/
def FileFault.message : FileFault → String
  | .notFound => "No such file or directory (os error 2)"
  | .notDirectory => "Not a directory (os error 20)"
  | .isDirectory => "Is a directory (os error 21)"
  | .nameTooLong => "File name too long (os error 36)"
  | .notText => "stream did not contain valid UTF-8"
  | .other message => message

/-- Why there is no configuration in a file. -/
inductive ConfigError
  | io (fault : FileFault)
  | parse (fault : Json.Fault)
  | invalid (problem : Config.Problem)
  deriving DecidableEq, Repr

/-- The wording of a configuration's error. -/
def ConfigError.message : ConfigError → String
  | .io fault => s!"IO error: {fault.message}"
  | .parse fault => s!"Parse error: {fault.message}"
  | .invalid problem => s!"Invalid configuration: {problem.message}"

/-! ### Reading -/

namespace Client

/-- A client that is being read. -/
structure Draft where
  address : Option String := none
  secret : Option String := none
  name : Option (Option String) := none
  enabled : Option Bool := none

/-- The fields of a client, in their order. -/
def fields : List (Json.Field Draft) := [
  { name := "address", isSet := fun draft => draft.address.isSome,
    read := fun draft => Json.string.map fun value => { draft with address := some value } },
  { name := "secret", isSet := fun draft => draft.secret.isSome,
    read := fun draft => Json.string.map fun value => { draft with secret := some value } },
  { name := "name", isSet := fun draft => draft.name.isSome,
    read := fun draft =>
      (Json.optional Json.string).map fun value => { draft with name := some value } },
  { name := "enabled", isSet := fun draft => draft.enabled.isSome,
    read := fun draft => Json.flag.map fun value => { draft with enabled := some value } }]

/-- The client of a draft that has an address and a secret. -/
def Draft.finish (draft : Draft) : Option Client :=
  match draft.address, draft.secret with
  | some address, some secret =>
    some { address, secret, name := draft.name.getD none, enabled := draft.enabled.getD true }
  | _, _ => none

/-- Reads a client. -/
def reader : Json.Reader Client :=
  Json.record fields {} Draft.finish

end Client

namespace Config

/-- A configuration that is being read. -/
structure Draft where
  secret : Option String := none
  clients : Option (List Client) := none
  strictLengthCheck : Option Bool := none
  logLevel : Option (Option String) := none

/-- The fields of a configuration, in their order. -/
def fields : List (Json.Field Draft) := [
  { name := "secret", isSet := fun draft => draft.secret.isSome,
    read := fun draft => Json.string.map fun value => { draft with secret := some value } },
  { name := "clients", isSet := fun draft => draft.clients.isSome,
    read := fun draft =>
      (Json.array Client.reader).map fun value => { draft with clients := some value } },
  { name := "strict_length_check", isSet := fun draft => draft.strictLengthCheck.isSome,
    read := fun draft =>
      Json.flag.map fun value => { draft with strictLengthCheck := some value } },
  { name := "log_level", isSet := fun draft => draft.logLevel.isSome,
    read := fun draft =>
      (Json.optional Json.string).map fun value => { draft with logLevel := some value } }]

/-- The configuration of a draft. What is missing falls back on the defaults. -/
def Draft.finish (draft : Draft) : Config :=
  let fallback : Config := {}
  { secret := draft.secret.getD fallback.secret
    clients := draft.clients.getD fallback.clients
    strictLengthCheck := draft.strictLengthCheck.getD fallback.strictLengthCheck
    logLevel := draft.logLevel.getD fallback.logLevel }

/-- Reads a configuration. -/
def reader : Json.Reader Config :=
  Json.record fields {} fun draft => some draft.finish

/-- The configuration that the bytes of a file hold, if it is valid. -/
def ofFile (bytes : List UInt8) : Except ConfigError Config :=
  match Utf8.decode? bytes with
  | none => .error (.io .notText)
  | some text =>
    match Json.read reader text with
    | .error fault => .error (.parse fault)
    | .ok config =>
      match config.problem? with
      | some problem => .error (.invalid problem)
      | none => .ok config

end Config

/-! ### Writing -/

/-- A client as it is written among the clients of a configuration. -/
def Client.written (client : Client) : List Char :=
  Json.writeObject 2 [
    ("address", Json.writeString client.address),
    ("secret", Json.writeString client.secret),
    ("name", Json.writeOptional client.name),
    ("enabled", Json.writeFlag client.enabled)]

/-- A configuration as it is written to a file. -/
def Config.written (config : Config) : List Char :=
  Json.writeObject 0 [
    ("secret", Json.writeString config.secret),
    ("clients", Json.writeArray 1 (config.clients.map Client.written)),
    ("strict_length_check", Json.writeFlag config.strictLengthCheck),
    ("log_level", Json.writeOptional config.logLevel)]

/-- The bytes of a file that holds a configuration. -/
def Config.toFile (config : Config) : List UInt8 :=
  Utf8.encode config.written

end Radius
