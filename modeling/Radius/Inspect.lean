import Radius.Dictionary.Standard
import Radius.Inspect.Folder
import Radius.Inspect.Options
import Radius.Log.Filter
import Radius.Packet.Access
import Radius.Server
import Radius.Text.Hex

/-!
# `Radius.Inspect`: the packet inspector

The inspector reads one packet the way a server with its configuration would, and explains
it line by line. A revealed password is not shown, only how many characters it has. The
inspector can also check a configuration and write a sample of one.

`run` is all of it as a function of the arguments, the files and the log variable; what it
prints and reports is an `Outcome`.
-/

set_option autoImplicit false

namespace Radius.Inspect

/-- What the inspector reports beside its output: a plain line or a log record. -/
inductive Diagnostic
  | line (text : String)
  | record (record : Log.Record)
  deriving DecidableEq

/-- How a run ends: its exit code, its output and its diagnostics. -/
structure Outcome where
  exit : UInt8
  output : String := ""
  diagnostics : List Diagnostic := []
  deriving DecidableEq

/-- What the inspector finds out about a packet: the exit code, the lines that explain the
packet and the records of how it was read. -/
structure Findings where
  exit : UInt8
  lines : List String := []
  records : List Log.Record := []
  deriving DecidableEq

/-- Lines of text, each with its end. -/
def linesText (lines : List String) : String :=
  String.join (lines.map (· ++ "\n"))

/-! ### Values and passwords -/

/-- The printed form of an attribute's value. Octets are shown in hexadecimal. -/
def describe (dictionary : Dictionary) (attr : Attribute) : String :=
  match attr.value with
  | .bytes bytes => "0x" ++ Hex.encode bytes
  | _ => dictionary.render attr

/-- What stands in for a revealed password. -/
def masked (password : String) : String :=
  "<" ++ Decimal.text password.length ++ " characters hidden>"

/-- The line of an attribute. -/
def attributeLine (dictionary : Dictionary) (attr : Attribute) : String :=
  "  " ++ (dictionary.name? attr.type).getD "Unknown"
    ++ " (" ++ Decimal.text attr.type.toNat ++ ") = " ++ describe dictionary attr

/-- The line of a user and a password. -/
def credentialsLine (user password : String) : String :=
  "PAP:           user=" ++ user ++ " password=" ++ masked password

/-- The lines that explain a packet of so many bytes. -/
def packetLines (dictionary : Dictionary) (packet : Packet) (length : Nat) : List String :=
  ["Code:          " ++ packet.code.name ++ " (" ++ Decimal.text packet.code.toByte.toNat ++ ")",
    "Identifier:    " ++ Decimal.text packet.identifier.toNat,
    "Length:        " ++ Decimal.text length,
    "Authenticator: " ++ Hex.encode packet.authenticator.bytes,
    "Attributes:"]
  ++ packet.attributes.map (attributeLine dictionary)
  ++ match packet.credentials? dictionary with
    | some (user, password) => [credentialsLine user password]
    | none => []

/-! ### Configurations -/

/-- The line of a client. -/
def clientLine (client : Client) : String :=
  "  " ++ (if client.enabled then "+" else "-") ++ " " ++ client.address
    ++ " - " ++ client.name.getD "(unnamed)"

/-- The lines that sum up a valid configuration. -/
def summaryLines (config : Config) : List String :=
  ["Configuration validated successfully!",
    "",
    "Configuration summary:",
    "  Clients: " ++ Decimal.text config.clients.length,
    "  Log level: " ++ config.effectiveLogLevel,
    "  Strict length check: " ++ (if config.strictLengthCheck then "true" else "false"),
    ""]
  ++ if config.clients.isEmpty then
      ["No clients configured: every source uses the default secret"]
    else "Known clients:" :: config.clients.map clientLine

/-- The configuration with what the command line puts in its place. -/
def Options.override (options : Options) (config : Config) : Config :=
  { config with
    secret := options.secret.getD config.secret
    strictLengthCheck := options.strict || config.strictLengthCheck }

/-! ### Log records -/

/-- The record of a packet that is no hexadecimal text. -/
def badHexRecord (fault : Hex.Fault) : Log.Record :=
  ⟨.error, .inspector, "Packet is not valid hex", [("error", .text fault.message)]⟩

/-- The record of a packet that is about to be read. -/
def decodingRecord (length : Nat) (strict : Bool) : Log.Record :=
  ⟨.debug, .inspector, "Decoding packet", [("bytes", .number length), ("strict", .flag strict)]⟩

/-- The record of a packet that was not read. -/
def failureRecord (source : Address) (cause : ServerError) : Log.Record :=
  ⟨.error, .inspector, "Failed to decode packet",
    [("client_ip", .text source.text), ("error", .text cause.message)]⟩

/-- The record of a packet with a user and a password. -/
def credentialsRecord (user : String) : Log.Record :=
  ⟨.info, .inspector, "PAP credentials present", [("username", .text user)]⟩

/-- The record of a run without a packet. -/
def noPacketRecord : Log.Record :=
  ⟨.error, .inspector, "No packet given", []⟩

/-! ### Runs -/

section
variable [Digest]

/-- Explains the bytes of a packet that comes from a source. -/
def explain (config : Config) (source : Address) (data : List UInt8) : Findings :=
  let server := Server.ofConfig .standard config
  let (result, events) := server.receive data source
  let before := decodingRecord data.length config.strictLengthCheck :: events.map Event.record
  match result with
  | .error cause => { exit := 1, records := before ++ [failureRecord source cause] }
  | .ok packet =>
    let credentials :=
      match packet.credentials? server.dictionary with
      | some (user, _) => [credentialsRecord user]
      | none => []
    { exit := 0
      lines := packetLines server.dictionary packet data.length
      records := before ++ credentials }

/-- Explains a packet that is given as hexadecimal text, if there is one. -/
def explainText (config : Config) (source : Address) (text? : Option String) : Findings :=
  match text? with
  | none => { exit := 2, records := [noPacketRecord] }
  | some text =>
    match Hex.decode (Text.trimString text) with
    | .error fault => { exit := 1, records := [badHexRecord fault] }
    | .ok data => explain config source data

/-- The filter of log records: the log variable if it spells one, the configured level
otherwise. -/
def logFilter (config : Config) (setting? : Option String) : Log.Filter :=
  match setting?.bind Log.Filter.read? with
  | some filter => filter
  | none => (Log.Filter.read? config.effectiveLogLevel).getD []

/-- The outcome for a configuration that was loaded, before and after the command line put
its own values in. -/
def report (options : Options) (loaded : Except ConfigError Config)
    (setting? : Option String) : Outcome :=
  match loaded with
  | .error cause =>
    { exit := 1
      diagnostics :=
        [.line "Configuration validation failed!", .line ("   Error: " ++ cause.message)] }
  | .ok config =>
    let config := options.override config
    match config.problem? with
    | some problem =>
      { exit := 1
        diagnostics :=
          [.line ("Invalid configuration: " ++ (ConfigError.invalid problem).message)] }
    | none =>
      if options.validate then { exit := 0, output := linesText (summaryLines config) }
      else
        let findings := explainText config options.origin options.packet
        { exit := findings.exit
          output := linesText findings.lines
          diagnostics :=
            (findings.records.filter (logFilter config setting?).admits).map .record }

/-- The configuration that the command line names, read from what its path leads to. Without
a path it is the default one. -/
def loadConfig (options : Options) (read : String → Except FileFault (List UInt8)) :
    Except ConfigError Config :=
  match options.config with
  | none => .ok {}
  | some path =>
    match read path with
    | .error fault => .error (.io fault)
    | .ok bytes => Config.ofFile bytes

/-- The path that a sample configuration is written to. -/
def Options.samplePath (options : Options) : String :=
  options.config.getD "config.json"

/-- The outcome of writing a sample configuration. -/
def sampleReport (options : Options) (written : Except FileFault Unit) : Outcome :=
  match written with
  | .ok () =>
    { exit := 0
      output := linesText ["Wrote example configuration to " ++ options.samplePath] }
  | .error fault =>
    { exit := 1
      diagnostics :=
        [.line ("Error creating example config: " ++ (ConfigError.io fault).message)] }

/-- How the inspector is called. This is a stand-in for the help that a library for command lines
makes of the options. No theorem is about these words. -/
def usage : String :=
  "Usage: radius-inspect [--config CONFIG] [--secret SECRET] [--source SOURCE] [--strict] "
    ++ "[--validate] [--init] [PACKET_HEX]"

/-- The outcome of a command line that is not carried out. -/
def refusalReport : Refusal → Outcome
  | .usage => { exit := 2, diagnostics := [.line usage] }
  | .help => { exit := 0, output := linesText [usage] }
  | .version => { exit := 0, output := linesText ["radius-inspect 0.1.0"] }

/-- A whole run: the outcome, and the files after it. -/
def run (arguments : List String) (folder : Folder) (setting? : Option String) :
    Outcome × Folder :=
  match Options.read arguments with
  | .error refusal => (refusalReport refusal, folder)
  | .ok options =>
    if options.init then
      match folder.write options.samplePath Config.sample.toFile with
      | .ok folder => (sampleReport options (.ok ()), folder)
      | .error fault => (sampleReport options (.error fault), folder)
    else (report options (loadConfig options folder.read) setting?, folder)

end

end Radius.Inspect
