import Radius.Log
import Radius.Log.Pattern
import Radius.Text.Parts
import Radius.Text.Utf8

/-!
# `Radius.Log.Filter`: which records are shown

A filter is a list of directives between commas. For a record the most specific of the
directives that fit it decides, of several that are equally specific the last one. A record
that no directive fits is not shown.

A directive says from which level on records are shown. In its full form

    path[span{field=value}]=level

it is about the sources whose paths begin with `path`, and within those about records with a
field of that name. A directive that names a span or a value is about spans alone, so it
fits no record. All parts but one may be left out: a level alone holds for every source, and
without a level everything is shown.

Blanks around a directive do not count for where its parts begin and end, but the parts are
taken at these places from the text with its blanks. So blanks in front put every part off,
and those at the end belong to the last part.
-/

set_option autoImplicit false

namespace Radius.Log

/-! ### Levels -/

/-- The gravity from which records are shown. At `none` nothing is. -/
abbrev Threshold : Type := Option Level

/-- A record of this level is shown. -/
def Threshold.admits (threshold : Threshold) (level : Level) : Bool :=
  match threshold with
  | some least => least.rank ≤ level.rank
  | none => false

/-- The thresholds by name, from nothing to everything. -/
def thresholds : List (String × Threshold) := [
  ("off", none), ("error", some .error), ("warn", some .warn), ("info", some .info),
  ("debug", some .debug), ("trace", some .trace)]

/-- The threshold that a text names, in letters of either case or as a number. -/
def threshold? (text : List Char) : Option Threshold :=
  match Decimal.unsigned? text with
  | some place => (thresholds.map (·.2))[place]?
  | none => thresholds.lookup (String.ofList (text.map Char.toLower))

/-! ### Fields -/

/-- A text without the sign in front of it. -/
def unsigned : List Char → List Char
  | '+' :: rest => rest
  | '-' :: rest => rest
  | text => text

/-- The text is a number: whole, with a decimal point, with an exponent, or one of the
values that are none. -/
def isNumber (text : List Char) : Bool :=
  let text := unsigned text
  let whole := text.takeWhile Char.isDigit
  let afterWhole := text.dropWhile Char.isDigit
  let (places, exponent) :=
    match afterWhole with
    | '.' :: rest => (rest.takeWhile Char.isDigit, rest.dropWhile Char.isDigit)
    | rest => ([], rest)
  let isExponent :=
    match exponent with
    | [] => true
    | e :: power =>
      e.toLower == 'e' && !(unsigned power).isEmpty && (unsigned power).all Char.isDigit
  ["inf", "infinity", "nan"].contains (String.ofList (text.map Char.toLower))
    || !(whole ++ places).isEmpty && isExponent

/-- The field that a record has to have, and its value if that matters. -/
structure FieldTest where
  name : List Char
  value? : Option (List Char) := none
  deriving DecidableEq

/-- The test that a text spells: a name, or a name and a value between which an equals sign
stands. A value is a number or a pattern; what another equals sign opens is left aside. -/
def FieldTest.read? (text : List Char) : Option FieldTest :=
  if text.isEmpty then none
  else
    match Text.fields '=' text with
    | name :: value :: _ =>
      if isNumber value || isPattern value then some { name, value? := some value } else none
    | [name] => some { name }
    | [] => none

/-! ### Directives -/

/-- What is shown of the records that a directive fits. -/
structure Directive where
  path : List Char := []
  span? : Option (List Char) := none
  field? : Option FieldTest := none
  threshold : Threshold := some .trace
  deriving DecidableEq

namespace Directive

/-- The directive is about the record. -/
def fits (directive : Directive) (record : Record) : Bool :=
  directive.span?.isNone
    && directive.path.isPrefixOf record.source.path.toList
    && match directive.field? with
      | some test =>
        test.value?.isNone && record.fieldNames.contains (String.ofList test.name)
      | none => true

/-- The directive is more specific than the other: its path is longer or, at equal length,
it has a field and the other has none or one of a smaller name. -/
def outranks (directive other : Directive) : Bool :=
  if directive.path.length = other.path.length then
    match directive.field?, other.field? with
    | some test, some otherTest => otherTest.name < test.name
    | some _, none => true
    | none, _ => false
  else other.path.length < directive.path.length

/-- How many bytes there are in a trimmed text before `rest`, which ends it. -/
def bytesBefore (text rest : List Char) : Nat :=
  (Utf8.encode (Text.trim text)).length - (Utf8.encode rest).length

/-- What follows in a text after as many bytes as there are in the trimmed text before
`rest`. There is nothing if a character lies across that place. -/
def from? (text rest : List Char) : Option (List Char) :=
  Utf8.decode? ((Utf8.encode text).drop (bytesBefore text rest))

/-- As much of what `from?` gives as `part` takes up, which opens `rest`. -/
def part? (text rest part : List Char) : Option (List Char) :=
  let bytes := (Utf8.encode text).drop (bytesBefore text rest)
  Utf8.decode? (bytes.take (Utf8.encode part).length)

/-- A directive may begin with this character. -/
def opens (c : Char) : Bool :=
  c == '-' || c == ':' || c == '_' || c == '[' || Text.isAlphanumeric c

/-- The directive with the level that follows the equals sign before `rest`. -/
def leveled? (directive : Directive) (text rest : List Char) : Option Directive :=
  match from? text rest with
  | some [] => some directive
  | some level => (threshold? level).map fun threshold => { directive with threshold }
  | none => none

/-- The directive with the level that may follow at its end. -/
def ended? (directive : Directive) (text : List Char) : List Char → Option Directive
  | [] => some directive
  | '=' :: rest => directive.leveled? text rest
  | _ => none

/-- The directive with the span and the field in the bracket that was opened before `rest`,
and with the level after it. -/
def scoped? (directive : Directive) (text rest : List Char) : Option Directive :=
  let name := rest.takeWhile fun c => c != ']' && c != '\x7b'
  match part? text rest name, rest.drop name.length with
  | some span, ']' :: after => { directive with span? := some span }.ended? text after
  | some span, '\x7b' :: inner =>
    let field := inner.takeWhile (· != '\x7d')
    match (part? text inner field).bind FieldTest.read?, inner.drop field.length with
    | some test, '\x7d' :: ']' :: after =>
      let span? := if span.isEmpty then none else some span
      { directive with span?, field? := some test }.ended? text after
    | _, _ => none
  | _, _ => none

/-- The directive that a text spells. -/
def read? (text : List Char) : Option Directive :=
  let body := Text.trim text
  let path := body.takeWhile fun c => c != '=' && c != '['
  if !body.head?.any opens then none
  else
    match part? text body path, body.drop path.length with
    | some path, '=' :: rest => { path : Directive }.leveled? text rest
    | some path, '[' :: rest => { path : Directive }.scoped? text rest
    | _, [] =>
      match threshold? text with
      | some threshold => some { threshold }
      | none => some { path := text }
    | _, _ => none

end Directive

/-! ### Filters -/

/-- A list of directives. -/
abbrev Filter : Type := List Directive

namespace Filter

/-- The filter that a text spells. Parts without any text are skipped. -/
def read? (text : String) : Option Filter :=
  ((Text.fields ',' text.toList).filter (!·.isEmpty)).mapM Directive.read?

/-- The directive that decides on a record. -/
def deciding (filter : Filter) (record : Record) : Option Directive :=
  (filter.filter (·.fits record)).foldl
    (fun best directive =>
      match best with
      | some other => if other.outranks directive then some other else some directive
      | none => some directive)
    none

/-- The record is shown. -/
def admits (filter : Filter) (record : Record) : Bool :=
  match deciding filter record with
  | some directive => directive.threshold.admits record.level
  | none => false

end Filter

end Radius.Log
