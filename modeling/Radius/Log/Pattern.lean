import Radius.Text.Alphanumeric
import Radius.Text.Digits
import Radius.Text.Parts

/-!
# `Radius.Log.Pattern`: patterns for the values of fields

A pattern is a regular expression for the value of a field. `isPattern` says whether a text
is one. No value is ever held against a pattern here: only those of spans would be, and the
program opens no spans.

The text of a pattern stands between braces, so it has no closing brace, and what would need
one is refused: counted repetitions, and numbers and names between braces. The classes of
digits, letters and blanks, the two cases of a letter and the edges of words are known for
ASCII only. A pattern that asks for them is refused unless it takes its characters as bytes,
and a pattern that does so is refused if it could match a part of a character.
-/

set_option autoImplicit false

namespace Radius.Log

namespace Pattern

open Text

/-! ### Modes -/

/-- How the characters of a pattern are taken. -/
structure Mode where
  /-- Letters stand for both of their cases. -/
  caseless : Bool := false
  /-- Characters are those of Unicode, and not bytes. -/
  unicode : Bool := true
  /-- Blanks and comments between the parts are skipped. -/
  spaced : Bool := false

/-- The characters that flags are made of. What follows the hyphen is switched off. -/
def flagCharacters : List Char :=
  ['i', 'm', 's', 'U', 'u', 'R', 'x', '-']

/-- The mode after some flags. None of them may be repeated, and the hyphen needs one. -/
def Mode.flagged? (mode : Mode) (flags : List Char) : Option Mode :=
  let on := flags.takeWhile (· != '-')
  let off := flags.dropWhile (· != '-')
  let switch (flag : Char) (before : Bool) : Bool :=
    (before || on.contains flag) && !off.contains flag
  if flags.all flagCharacters.contains && decide flags.Nodup && flags.getLast? != some '-' then
    some {
      caseless := switch 'i' mode.caseless
      unicode := switch 'u' mode.unicode
      spaced := switch 'x' mode.spaced }
  else none

/-! ### Items -/

/-- A part of a pattern that has no parts of its own. -/
inductive Item
  /-- A character by its number. It may be given as one byte. -/
  | character (code : Nat) (asByte : Bool)
  /-- A class of digits, letters or blanks, or all characters outside of it. -/
  | kind (negated : Bool)
  /-- A position: an edge of the text, or of a word in it. -/
  | edge (ofWord : Bool)

/-- The item may stand by itself. -/
def Item.isAdmitted (mode : Mode) : Item → Bool
  | .character code asByte =>
    if mode.unicode then !mode.caseless else code < 0x80 || !(asByte || mode.caseless)
  | .kind negated => !mode.unicode && !negated
  | .edge ofWord => !(ofWord && mode.unicode)

/-- The item may stand in a class. -/
def Item.isMember (mode : Mode) : Item → Bool
  | .character code _ => mode.unicode || code < 0x80
  | .kind negated => !mode.unicode && !negated
  | .edge _ => false

/-- The items may be the first and the last of a range in a class. -/
def Item.bound (mode : Mode) (first last : Item) : Bool :=
  match first, last with
  | .character least _, .character most _ =>
    first.isMember mode && last.isMember mode && least ≤ most
  | _, _ => false

/-- The characters that escapes name. -/
def controls : List (Char × Nat) :=
  [('a', 7), ('t', 9), ('n', 10), ('v', 11), ('f', 12), ('r', 13)]

/-- The item that an escape names by one character. What has no meaning stands for itself,
but letters and digits without one are refused. -/
def Item.named? (name : Char) : Option Item :=
  match controls.lookup name with
  | some code => some (.character code false)
  | none =>
    if ['d', 's', 'w'].contains name then some (.kind false)
    else if ['D', 'S', 'W'].contains name then some (.kind true)
    else if ['A', 'z'].contains name then some (.edge false)
    else if ['b', 'B', '<', '>'].contains name then some (.edge true)
    else if name.toNat < 0x80 && !name.isAlphanum then some (.character name.toNat false)
    else none

/-- The character whose number has so many hexadecimal digits. -/
def numbered? (count : Nat) (asByte : Bool) (text : List Char) : Option (Item × Tail text) :=
  let digits := text.take count
  match hexNumber? digits with
  | some code =>
    if digits.length = count ∧ code.isValidChar then
      some (.character code asByte, ⟨text.drop count, by simp⟩)
    else none
  | none => none

/-- The item of an escape, after its backslash. -/
def escaped? (text : List Char) : Option (Item × Tail text) :=
  match text with
  | [] => none
  | c :: rest =>
    let digits? : Option Nat := [('x', 2), ('u', 4), ('U', 8)].lookup c
    match digits? with
    | some count =>
      match numbered? count (count == 2) rest with
      | some (item, tail) => some (item, tail.cons c)
      | none => none
    | none =>
      match Item.named? c with
      | some item => some (item, Tail.cons c (.all rest))
      | none => none

/-- The item that a character opens. -/
def item? (first : Char) (rest : List Char) : Option (Item × Tail rest) :=
  if first = '\\' then escaped? rest else some (.character first.toNat false, .all rest)

/-! ### Classes -/

/-- The names of classes of ASCII characters. -/
def classNames : List String :=
  ["alnum", "alpha", "ascii", "blank", "cntrl", "digit", "graph", "lower", "print", "punct",
    "space", "upper", "word", "xdigit"]

/-- A class of ASCII characters by its name, after its bracket: whether it is negated, and
what is left. -/
def namedClass? (text : List Char) : Option (Bool × Tail text) :=
  match text with
  | ':' :: rest =>
    let negated := rest.head? == some '^'
    let body := Tail.skip '^' rest
    let name := String.ofList (body.1.takeWhile (· != ':'))
    let close := body.andThen (.dropWhile (· != ':') body.1)
    if classNames.contains name && [':', ']'].isPrefixOf close.1 then
      some (negated, (close.andThen ⟨close.1.drop 2, by simp⟩).cons ':')
    else none
  | _ => none

/-- What is left of a class after its bracket and what has its meaning only there: a caret,
any number of hyphens, and a closing bracket if no hyphen is before it. -/
def openClass? (mode : Mode) (text : List Char) : Option (Tail text) :=
  let negated := text.head? == some '^'
  let body := Tail.skip '^' text
  let members := body.andThen (.dropWhile (· == '-') body.1)
  if mode.unicode && mode.caseless || !mode.unicode && negated then none
  else if members.1.length = body.1.length then some (members.andThen (.skip ']' members.1))
  else some members

/-- Two of this character make up an operator between classes. -/
def isOperator (c : Char) : Bool :=
  c == '&' || c == '-' || c == '~'

/-- What is left after a member of a class whose first item was read: a range up to another
item, if a hyphen follows that has no other meaning, or else the item alone. -/
def member? (mode : Mode) (first : Item) (text : List Char) : Option (Tail text) :=
  match text with
  | '-' :: c :: rest =>
    if c = ']' || c = '-' then if first.isMember mode then some (.all _) else none
    else
      match item? c rest with
      | some (last, tail) =>
        if first.bound mode last then some ((tail.cons c).cons '-') else none
      | none => none
  | text => if first.isMember mode then some (.all text) else none

/-- What is left of a text after a class that was opened in it, with so many classes open
around it. -/
def closeClass? (mode : Mode) (depth : Nat) (text : List Char) : Option (Tail text) :=
  match text with
  | [] => none
  | c :: rest =>
    if mode.spaced && isBlank c then (closeClass? mode depth rest).map (·.cons c)
    else if mode.spaced && c == '#' then
      match Tail.dropWhile (· != '\n') rest with
      | ⟨after, after_le⟩ =>
        (closeClass? mode depth after).map fun tail => (tail.after after_le).cons c
    else if c = '[' then
      match namedClass? rest with
      | some (negated, ⟨after, after_le⟩) =>
        if !mode.unicode && negated then none
        else (closeClass? mode depth after).map fun tail => (tail.after after_le).cons c
      | none =>
        match openClass? mode rest with
        | some ⟨after, after_le⟩ =>
          (closeClass? mode (depth + 1) after).map fun tail => (tail.after after_le).cons c
        | none => none
    else if c = ']' then
      if depth = 0 then some (Tail.cons c (.all rest))
      else (closeClass? mode (depth - 1) rest).map (·.cons c)
    else if isOperator c && rest.head? == some c then
      (closeClass? mode depth rest.tail).map fun tail => (tail.after (by simp)).cons c
    else
      match item? c rest with
      | some (item, ⟨last, last_le⟩) =>
        match member? mode item last with
        | some ⟨after, after_le⟩ =>
          (closeClass? mode depth after).map fun tail =>
            (tail.after (Nat.le_trans after_le last_le)).cons c
        | none => none
      | none => none
termination_by text.length
decreasing_by
  all_goals
    simp only [List.length_cons, List.length_tail] at *
    omega

/-! ### Groups -/

/-- What a parenthesis opens: a group with a mode of its own, or a change of the mode. -/
inductive Opening
  | group (mode : Mode) (name? : Option (List Char))
  | change (mode : Mode)

/-- The text names a group. -/
def isGroupName : List Char → Bool
  | [] => false
  | first :: rest =>
    (first == '_' || isAlphabetic first)
      && rest.all fun c => ['_', '.', '[', ']'].contains c || isAlphanumeric c

/-- A group after the angle bracket that opens its name. -/
def namedGroup? (mode : Mode) (names : List (List Char)) (text : List Char) :
    Option (Opening × Tail text) :=
  let name := text.takeWhile (· != '>')
  let close := Tail.dropWhile (· != '>') text
  if close.1 ≠ [] ∧ isGroupName name ∧ name ∉ names then
    some (.group mode (some name), close.andThen ⟨close.1.drop 1, by simp⟩)
  else none

/-- Flags after their question mark, for the group that they open or for what follows. -/
def flags? (mode : Mode) (text : List Char) : Option (Opening × Tail text) :=
  let flags := text.takeWhile fun c => c != ':' && c != ')'
  let close := Tail.dropWhile (fun c => c != ':' && c != ')') text
  let after := close.andThen ⟨close.1.drop 1, by simp⟩
  match close.1.head?, mode.flagged? flags with
  | some ':', some mode => some (.group mode none, after)
  | some _, some mode => if flags.isEmpty then none else some (.change mode, after)
  | _, _ => none

/-- What follows a parenthesis. The names are those of earlier groups. -/
def opening? (mode : Mode) (names : List (List Char)) (text : List Char) :
    Option (Opening × Tail text) :=
  match text with
  | '?' :: rest =>
    match rest with
    | '<' :: name =>
      (namedGroup? mode names name).map fun (opening, tail) =>
        (opening, (tail.cons '<').cons '?')
    | 'P' :: '<' :: name =>
      (namedGroup? mode names name).map fun (opening, tail) =>
        (opening, ((tail.cons '<').cons 'P').cons '?')
    | rest => (flags? mode rest).map fun (opening, tail) => (opening, tail.cons '?')
  | text => some (.group mode none, .all text)

/-! ### Patterns -/

/-- What was read of a pattern: the mode at this place, the modes around the open groups, the
names of groups, and whether there is something to repeat. -/
structure State where
  mode : Mode := {}
  outer : List Mode := []
  names : List (List Char) := []
  repeatable : Bool := false

/-- The state after an opening. -/
def State.opened (state : State) : Opening → State
  | .change mode => { state with mode, repeatable := false }
  | .group mode name? =>
    { mode, outer := state.mode :: state.outer, names := name?.toList ++ state.names }

/-- The state after a part that may be repeated. -/
def State.passed (state : State) : State :=
  { state with repeatable := true }

/-- The text completes a pattern. -/
def completes (state : State) (text : List Char) : Bool :=
  match text with
  | [] => state.outer.isEmpty
  | c :: rest =>
    if state.mode.spaced && isBlank c then completes state rest
    else if state.mode.spaced && c == '#' then
      match Tail.dropWhile (· != '\n') rest with
      | ⟨after, _⟩ => completes state after
    else if c = '(' then
      match opening? state.mode state.names rest with
      | some (opening, ⟨after, _⟩) => completes (state.opened opening) after
      | none => false
    else if c = ')' then
      match state.outer with
      | mode :: outer => completes { state with mode, outer, repeatable := true } rest
      | [] => false
    else if c = '|' then completes { state with repeatable := false } rest
    else if c = '[' then
      match openClass? state.mode rest with
      | some ⟨members, _⟩ =>
        match closeClass? state.mode 0 members with
        | some ⟨after, _⟩ => completes state.passed after
        | none => false
      | none => false
    else if c = '?' || c = '*' || c = '+' then state.repeatable && completes state.passed rest
    else if c = '\x7b' then false
    else if c = '.' then state.mode.unicode && completes state.passed rest
    else if c = '^' || c = '$' then completes state.passed rest
    else
      match item? c rest with
      | some (item, ⟨after, _⟩) => item.isAdmitted state.mode && completes state.passed after
      | none => false
termination_by text.length
decreasing_by
  all_goals
    simp only [List.length_cons] at *
    omega

end Pattern

/-- The text is a pattern. -/
def isPattern (text : List Char) : Bool :=
  Pattern.completes {} text

end Radius.Log
