import Radius.Text.Digits
import Radius.Text.Parts
import Radius.Text.Utf8

/-!
# `Radius.Json.Text`: the lexical parts of JSON

Blanks, literals and strings, read from the left. A fault says how the text disappoints: it
ends too early, it breaks the grammar, or it holds a value of another type than wanted. What
is left after a part is a `Tail` of what was there before, which is how the readers of whole
values know that they get on.

`quote` writes a string. A string that is only skipped is read more leniently than one that
is wanted: the numbers in its escapes need not make up characters.
-/

set_option autoImplicit false

namespace Radius.Json

open Text

/-- How a text disappoints its reader. -/
inductive Fault
  /-- The text ends too early. -/
  | truncated
  /-- The text breaks the grammar. -/
  | malformed
  /-- A value has another type than wanted, or a field is missing or repeated. -/
  | mistyped
  deriving DecidableEq, Repr

/-- The wording of a fault. This is a stand-in: a JSON library words its faults in its own way, with
the place of the fault in the text. No theorem is about these words. -/
def Fault.message : Fault → String
  | .truncated => "unexpected end of text"
  | .malformed => "malformed text"
  | .mistyped => "unexpected value"

/-! ### Blanks and literals -/

/-- The blanks that may stand between the parts of JSON. -/
def isSpace (c : Char) : Bool :=
  c == ' ' || c == '\n' || c == '\t' || c == '\r'

/-- The first character of a text that is no blank, and what follows it. -/
structure Token (text : List Char) where
  first : Char
  rest : List Char
  shorter : rest.length < text.length

/-- Skips blanks and takes the character after them, if there is one. -/
def token? : (text : List Char) → Option (Token text)
  | [] => none
  | c :: rest =>
    if isSpace c then
      match token? rest with
      | some token =>
        some ⟨token.first, token.rest, Nat.lt_succ_of_lt token.shorter⟩
      | none => none
    else some ⟨c, rest, Nat.lt_succ_self _⟩

/-- Takes exactly the expected characters. -/
def literal : (expected : List Char) → (text : List Char) → Except Fault (Tail text)
  | [], text => .ok (.all text)
  | _ :: _, [] => .error .truncated
  | e :: expected, c :: rest =>
    if c = e then
      match literal expected rest with
      | .ok tail => .ok (tail.cons c)
      | .error fault => .error fault
    else .error .malformed

/-! ### Strings -/

/-- One character of a string as it is written between quotes. -/
def escape (c : Char) : List Char :=
  if c = '"' then ['\\', '"']
  else if c = '\\' then ['\\', '\\']
  else if c.toNat = 8 then ['\\', 'b']
  else if c = '\t' then ['\\', 't']
  else if c = '\n' then ['\\', 'n']
  else if c.toNat = 12 then ['\\', 'f']
  else if c = '\r' then ['\\', 'r']
  else if c.toNat < 32 then
    ['\\', 'u', '0', '0', Text.hexDigit (c.toNat / 16), Text.hexDigit c.toNat]
  else [c]

/-- A string as it is written. -/
def quote (text : List Char) : List Char :=
  '"' :: text.flatMap escape ++ ['"']

/-- The number in an escape: four hexadecimal digits. A text with fewer than four bytes left
counts as ended, whatever they are. -/
def fourDigits (text : List Char) : Except Fault (Nat × Tail text) :=
  match text with
  | a :: b :: c :: d :: rest =>
    match Text.hexNumber? [a, b, c, d] with
    | some n => .ok (n, ⟨rest, by simp only [List.length_cons]; omega⟩)
    | none => .error .malformed
  | _ => if (Utf8.encode text).length < 4 then .error .truncated else .error .malformed

/-- The number is the first half of a character past the sixteen-bit range. -/
def isHighSurrogate (n : Nat) : Bool :=
  0xD800 ≤ n && n < 0xDC00

/-- The number is the second half of a character past the sixteen-bit range. -/
def isLowSurrogate (n : Nat) : Bool :=
  0xDC00 ≤ n && n < 0xE000

/-- The second half of a character, which has to follow the first as an escape of its own. -/
def secondHalf (high : Nat) (text : List Char) : Except Fault (Char × Tail text) :=
  match text with
  | [] => .error .truncated
  | ['\\'] => .error .truncated
  | '\\' :: 'u' :: rest =>
    match fourDigits rest with
    | .error fault => .error fault
    | .ok (low, tail) =>
      if isLowSurrogate low then
        .ok (Char.ofNat (0x10000 + (high - 0xD800) * 0x400 + (low - 0xDC00)),
          tail.after (by simp only [List.length_cons]; omega))
      else .error .malformed
  | _ => .error .malformed

/-- The character of an escape, after its backslash. -/
def escaped (text : List Char) : Except Fault (Char × Tail text) :=
  match text with
  | [] => .error .truncated
  | c :: rest =>
    let is (c : Char) : Except Fault (Char × Tail (c :: rest)) :=
      .ok (c, (Tail.all rest).cons _)
    match c with
    | '"' => is '"'
    | '\\' => is '\\'
    | '/' => is '/'
    | 'b' => is (Char.ofNat 8)
    | 'f' => is (Char.ofNat 12)
    | 'n' => is '\n'
    | 'r' => is '\r'
    | 't' => is '\t'
    | 'u' =>
      match fourDigits rest with
      | .error fault => .error fault
      | .ok (n, tail) =>
        if isLowSurrogate n then .error .malformed
        else if isHighSurrogate n then
          match secondHalf n tail.1 with
          | .error fault => .error fault
          | .ok (c, after) => .ok (c, (tail.andThen after).cons _)
        else .ok (Char.ofNat n, tail.cons _)
    | _ => .error .malformed

/-- The characters of a string up to its closing quote. -/
def stringTail (text : List Char) : Except Fault (List Char × Tail text) :=
  match text with
  | [] => .error .truncated
  | '"' :: rest => .ok ([], (Tail.all rest).cons _)
  | '\\' :: rest =>
    match escaped rest with
    | .error fault => .error fault
    | .ok (c, tail) =>
      match stringTail tail.1 with
      | .error fault => .error fault
      | .ok (cs, after) => .ok (c :: cs, (tail.andThen after).cons _)
  | c :: rest =>
    if c.toNat < 32 then .error .malformed
    else
      match stringTail rest with
      | .error fault => .error fault
      | .ok (cs, after) => .ok (c :: cs, after.cons _)
termination_by text.length
decreasing_by
  · have := tail.2
    simp only [List.length_cons]
    omega
  · simp only [List.length_cons]
    omega

/-- An escape in a string that is skipped, after its backslash. -/
def skipEscaped (text : List Char) : Except Fault (Tail text) :=
  match text with
  | [] => .error .truncated
  | c :: rest =>
    if c = 'u' then
      match fourDigits rest with
      | .error fault => .error fault
      | .ok (_, tail) => .ok (tail.cons _)
    else if ['"', '\\', '/', 'b', 'f', 'n', 'r', 't'].contains c then
      .ok ((Tail.all rest).cons _)
    else .error .malformed

/-- Skips a string up to its closing quote. -/
def skipStringTail (text : List Char) : Except Fault (Tail text) :=
  match text with
  | [] => .error .truncated
  | '"' :: rest => .ok ((Tail.all rest).cons _)
  | '\\' :: rest =>
    match skipEscaped rest with
    | .error fault => .error fault
    | .ok tail =>
      match skipStringTail tail.1 with
      | .error fault => .error fault
      | .ok after => .ok ((tail.andThen after).cons _)
  | c :: rest =>
    if c.toNat < 32 then .error .malformed
    else
      match skipStringTail rest with
      | .error fault => .error fault
      | .ok after => .ok (after.cons _)
termination_by text.length
decreasing_by
  · have := tail.2
    simp only [List.length_cons]
    omega
  · simp only [List.length_cons]
    omega

end Radius.Json
