import Radius.Text.Digits

/-!
# `Radius.Log`: log records

What happens while packets are handled is reported as records: a level, a source, a message
and named fields. A record is shown on one line, its fields after the message.
-/

set_option autoImplicit false

namespace Radius.Log

/-- How much a record matters, from the most detailed level to the gravest. -/
inductive Level
  | trace
  | debug
  | info
  | warn
  | error
  deriving DecidableEq, Repr

/-- The name of a level. -/
def Level.name : Level → String
  | .trace => "TRACE"
  | .debug => "DEBUG"
  | .info => "INFO"
  | .warn => "WARN"
  | .error => "ERROR"

/-- The place of a level in the order. -/
def Level.rank : Level → Nat
  | .trace => 0
  | .debug => 1
  | .info => 2
  | .warn => 3
  | .error => 4

/-- The part of the program that a record comes from. -/
inductive Source
  | inspector
  | server
  deriving DecidableEq, Repr

/-- The path that log filters name a source by. -/
def Source.path : Source → String
  | .inspector => "radius_inspect"
  | .server => "radius_server::server"

/-- What a field of a record holds. -/
inductive FieldValue
  | text (text : String)
  | number (number : Nat)
  | flag (value : Bool)
  deriving DecidableEq, Repr

/-- The text of what a field holds. -/
def FieldValue.shown : FieldValue → String
  | .text content => content
  | .number content => Decimal.text content
  | .flag true => "true"
  | .flag false => "false"

/-- A record. -/
structure Record where
  level : Level
  source : Source
  message : String
  fields : List (String × FieldValue)
  deriving DecidableEq, Repr

/-- The names of what a record holds. The message is one of its fields. -/
def Record.fieldNames (record : Record) : List String :=
  "message" :: record.fields.map (·.1)

/-- The line of a record. -/
def Record.line (record : Record) : String :=
  " ".intercalate (record.level.name :: record.message ::
    record.fields.map fun (name, value) => name ++ "=" ++ value.shown)

end Radius.Log
