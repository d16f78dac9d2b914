import Radius.Json.Text
import Radius.Text.Parts

/-!
# `Radius.Json.Writer`: JSON on lines of its own

Arrays and objects put each item on a line of its own, two spaces deeper than what encloses
it; without items they are a pair of brackets.
-/

set_option autoImplicit false

namespace Radius.Json

/-- The start of a new line at a depth. -/
def newLine (depth : Nat) : List Char :=
  '\n' :: List.replicate (2 * depth) ' '

/-- Items between brackets that stand at a depth. -/
def block (opening closing : Char) (depth : Nat) (items : List (List Char)) : List Char :=
  if items.isEmpty then [opening, closing]
  else
    opening :: Text.joined [','] (items.map (newLine (depth + 1) ++ ·))
      ++ newLine depth ++ [closing]

/-- An array at a depth, from its written items. -/
def writeArray (depth : Nat) (items : List (List Char)) : List Char :=
  block '[' ']' depth items

/-- An object at a depth, from the names and the written values of its members. -/
def writeObject (depth : Nat) (members : List (String × List Char)) : List Char :=
  block '\x7b' '\x7d' depth (members.map fun (name, value) =>
    quote name.toList ++ [':', ' '] ++ value)

/-- A string. -/
def writeString (text : String) : List Char :=
  quote text.toList

/-- A truth value. -/
def writeFlag (value : Bool) : List Char :=
  if value then ['t', 'r', 'u', 'e'] else ['f', 'a', 'l', 's', 'e']

/-- A string, or `null` in place of none. -/
def writeOptional : Option String → List Char
  | some text => writeString text
  | none => ['n', 'u', 'l', 'l']

end Radius.Json
