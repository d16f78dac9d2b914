import Radius.Address

/-!
# `Radius.Inspect.Options`: the command line of the inspector

Arguments are read from the left. An argument that begins with a hyphen is an option, except
the hyphen alone; the value of an option follows it or is attached to it. Two hyphens alone
end the options. Options and the packet may be given once, and the packet has to be given
unless the inspector is asked for something else.
-/

set_option autoImplicit false

namespace Radius.Inspect

/-- What the command line asks for. -/
structure Options where
  /-- The packet, in hexadecimal. -/
  packet : Option String := none
  /-- The path of the configuration. -/
  config : Option String := none
  /-- A secret in place of the configured default. -/
  secret : Option String := none
  /-- The address that the packet is taken to come from. -/
  source : Option Address := none
  /-- The declared length counts. -/
  strict : Bool := false
  /-- Only the configuration is checked. -/
  validate : Bool := false
  /-- A sample configuration is written. -/
  init : Bool := false
  deriving DecidableEq

/-- The address that packets come from unless the command line says otherwise. -/
def defaultSource : Address :=
  .v4 ⟨127, 0, 0, 1⟩

/-- The address that the packet is taken to come from. -/
def Options.origin (options : Options) : Address :=
  options.source.getD defaultSource

/-- Why a command line is not carried out. -/
inductive Refusal
  | usage
  | help
  | version
  deriving DecidableEq, Repr

/-- The options that take a value. -/
inductive Setting
  | config
  | secret
  | source
  deriving DecidableEq, Repr

/-- The options that take none. -/
inductive Flag
  | strict
  | validate
  | init
  | help
  | version
  deriving DecidableEq, Repr

/-- The long names of the options that take a value. -/
def longSettings : List (String × Setting) :=
  [("config", .config), ("secret", .secret), ("source", .source)]

/-- The long names of the options that take none. -/
def longFlags : List (String × Flag) := [
  ("strict", .strict), ("validate", .validate), ("init", .init), ("help", .help),
  ("version", .version)]

/-- The short names of options that take a value. -/
def shortSettings : List (Char × Setting) :=
  [('c', .config), ('s', .secret)]

/-- The short names of options that take none. -/
def shortFlags : List (Char × Flag) :=
  [('h', .help), ('V', .version)]

/-! ### Arguments -/

/-- The form of an argument. -/
inductive Argument
  | plain
  | separator
  | setting (setting : Setting) (attached : Option (List Char))
  | flag (flag : Flag)
  | unknown
  deriving DecidableEq, Repr

/-- A text before and after its first equals sign. -/
def attachment : List Char → List Char × Option (List Char)
  | [] => ([], none)
  | '=' :: rest => ([], some rest)
  | c :: rest =>
    let (name, attached) := attachment rest
    (c :: name, attached)

/-- The option of a long name. What stands after an equals sign is its value, which an option
that takes none does not allow. -/
def longOption (text : List Char) : Argument :=
  let (name, attached) := attachment text
  match longSettings.lookup (String.ofList name), longFlags.lookup (String.ofList name) with
  | some setting, _ => .setting setting attached
  | none, some flag => if attached.isSome then .unknown else .flag flag
  | none, none => .unknown

/-- The option of a short name. What follows the name is its value, with or without an equals
sign before it; an option that takes none wins over what follows it. -/
def shortOption (name : Char) (rest : List Char) : Argument :=
  match shortSettings.lookup name, shortFlags.lookup name with
  | some setting, _ =>
    match rest with
    | [] => .setting setting none
    | '=' :: value => .setting setting (some value)
    | value => .setting setting (some value)
  | none, some flag => .flag flag
  | none, none => .unknown

/-- The form of an argument. -/
def argument (text : List Char) : Argument :=
  match text with
  | ['-', '-'] => .separator
  | '-' :: '-' :: rest => longOption rest
  | '-' :: name :: rest => shortOption name rest
  | _ => .plain

/-! ### Reading -/

namespace Options

/-- A value for something that may be given once. -/
def once {α : Type} (earlier : Option α) (value : α) : Except Refusal (Option α) :=
  match earlier with
  | some _ => .error .usage
  | none => .ok (some value)

/-- The options with a value for one of them. -/
def assign (options : Options) (setting : Setting) (value : String) :
    Except Refusal Options :=
  match setting with
  | .config => (once options.config value).map ({ options with config := · })
  | .secret => (once options.secret value).map ({ options with secret := · })
  | .source =>
    match Address.read? value.toList with
    | some source => (once options.source source).map ({ options with source := · })
    | none => .error .usage

/-- The options with one of them switched on. -/
def switchOn (options : Options) (flag : Flag) : Except Refusal Options :=
  match flag with
  | .strict => if options.strict then .error .usage else .ok { options with strict := true }
  | .validate =>
    if options.validate then .error .usage else .ok { options with validate := true }
  | .init => if options.init then .error .usage else .ok { options with init := true }
  | .help => .error .help
  | .version => .error .version

/-- The options with the packet. -/
def assignPacket (options : Options) (text : String) : Except Refusal Options :=
  (once options.packet text).map ({ options with packet := · })

/-- The options with all remaining arguments for the packet. -/
def readPlain (options : Options) : List String → Except Refusal Options
  | [] => .ok options
  | text :: rest =>
    match options.assignPacket text with
    | .ok options => readPlain options rest
    | .error refusal => .error refusal

/-- The options with what the remaining arguments say. -/
def readArguments (options : Options) : List String → Except Refusal Options
  | [] => .ok options
  | text :: rest =>
    match argument text.toList with
    | .unknown => .error .usage
    | .separator => options.readPlain rest
    | .plain =>
      match options.assignPacket text with
      | .ok options => readArguments options rest
      | .error refusal => .error refusal
    | .flag flag =>
      match options.switchOn flag with
      | .ok options => readArguments options rest
      | .error refusal => .error refusal
    | .setting setting (some value) =>
      match options.assign setting (String.ofList value) with
      | .ok options => readArguments options rest
      | .error refusal => .error refusal
    | .setting setting none =>
      match rest with
      | [] => .error .usage
      | value :: rest =>
        if argument value.toList = .plain then
          match options.assign setting value with
          | .ok options => readArguments options rest
          | .error refusal => .error refusal
        else .error .usage

/-- What a command line asks for. -/
def read (arguments : List String) : Except Refusal Options :=
  match readArguments {} arguments with
  | .error refusal => .error refusal
  | .ok options =>
    if options.packet.isNone && !options.validate && !options.init then .error .usage
    else .ok options

end Options

end Radius.Inspect
