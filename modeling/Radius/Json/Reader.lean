import Radius.Json.Number

/-!
# `Radius.Json.Reader`: typed reading of JSON

A reader of a type gets the first character of a value and what follows it, and returns the
value and what is left. Text is read once, from the left, and the first fault wins: a value
of the wrong type hides everything after it.

A record is an object whose members are named after its fields, in any order and among
members of other names, or an array of its fields in their order. A field that is given
twice is a fault; which fields may be missing is up to the record (`record`).
-/

set_option autoImplicit false

namespace Radius.Json

open Text

/-- Reads a value from its first character and what follows. -/
abbrev Reader (α : Type) : Type :=
  (first : Char) → (rest : List Char) → Except Fault (α × Tail rest)

/-- A reader whose value goes through a function. -/
def Reader.map {α β : Type} (f : α → β) (reader : Reader α) : Reader β := fun first rest =>
  match reader first rest with
  | .ok (value, tail) => .ok (f value, tail)
  | .error fault => .error fault

/-! ### Skipping -/

/-- Skips the rest of a literal that its first character announces. -/
def skipLiteral (first : Char) (rest : List Char) : Except Fault (Tail rest) :=
  match first with
  | 'n' => literal ['u', 'l', 'l'] rest
  | 't' => literal ['r', 'u', 'e'] rest
  | 'f' => literal ['a', 'l', 's', 'e'] rest
  | _ => .error .malformed

/-- Skips a number, a string or a literal. -/
def skipScalar (first : Char) (rest : List Char) : Except Fault (Tail rest) :=
  if first = '"' then skipStringTail rest
  else if first = '-' ∨ isDigit first then
    match number .malformed first rest with
    | .ok (_, tail) => .ok tail
    | .error fault => .error fault
  else skipLiteral first rest

mutual

/-- Skips a value of any type. -/
def skipValue (first : Char) (rest : List Char) : Except Fault (Tail rest) :=
  if first = '[' then skipElements true rest
  else if first = '\x7b' then skipMembers true rest
  else skipScalar first rest
termination_by 2 * rest.length + 1

/-- Skips the elements of an array up to its end. The end may stand in place of the first
element, but not after a comma. -/
def skipElements (atStart : Bool) (text : List Char) : Except Fault (Tail text) :=
  match token? text with
  | none => .error .truncated
  | some ⟨first, rest, shorter⟩ =>
    if first = ']' then
      if atStart then .ok ⟨rest, Nat.le_of_lt shorter⟩ else .error .malformed
    else
      match skipValue first rest with
      | .error fault => .error fault
      | .ok ⟨after, after_le⟩ =>
        match token? after with
        | none => .error .truncated
        | some ⟨next, following, following_lt⟩ =>
          if next = ']' then .ok ⟨following, by omega⟩
          else if next = ',' then
            match skipElements false following with
            | .error fault => .error fault
            | .ok tail => .ok (tail.after (by omega))
          else .error .malformed
termination_by 2 * text.length

/-- Skips the members of an object up to its end. -/
def skipMembers (atStart : Bool) (text : List Char) : Except Fault (Tail text) :=
  match token? text with
  | none => .error .truncated
  | some ⟨first, rest, shorter⟩ =>
    if first = '\x7d' then
      if atStart then .ok ⟨rest, Nat.le_of_lt shorter⟩ else .error .malformed
    else if first = '"' then
      match skipStringTail rest with
      | .error fault => .error fault
      | .ok ⟨afterName, afterName_le⟩ =>
        match token? afterName with
        | none => .error .truncated
        | some ⟨colon, beforeValue, beforeValue_lt⟩ =>
          if colon = ':' then
            match token? beforeValue with
            | none => .error .truncated
            | some ⟨value, inValue, inValue_lt⟩ =>
              match skipValue value inValue with
              | .error fault => .error fault
              | .ok ⟨after, after_le⟩ =>
                match token? after with
                | none => .error .truncated
                | some ⟨next, following, following_lt⟩ =>
                  if next = '\x7d' then .ok ⟨following, by omega⟩
                  else if next = ',' then
                    match skipMembers false following with
                    | .error fault => .error fault
                    | .ok tail => .ok (tail.after (by omega))
                  else .error .malformed
          else .error .malformed
    else .error .malformed
termination_by 2 * text.length

end

/-- Reads a value of any type and forgets it. -/
def skip {σ : Type} (state : σ) : Reader σ := fun first rest =>
  match skipValue first rest with
  | .ok tail => .ok (state, tail)
  | .error fault => .error fault

/-! ### Scalars -/

/-- The fault of a value that has another type than wanted. Up to where its type shows, the
text has to be right. -/
def wrongType (first : Char) (rest : List Char) : Fault :=
  if first = '[' ∨ first = '\x7b' then .mistyped
  else if first = '"' then
    match stringTail rest with
    | .ok _ => .mistyped
    | .error fault => fault
  else if first = '-' ∨ isDigit first then
    match number .truncated first rest with
    | .ok (number, _) => if number.isTooLarge then .malformed else .mistyped
    | .error fault => fault
  else
    match skipLiteral first rest with
    | .ok _ => .mistyped
    | .error fault => fault

/-- Reads a string. -/
def string : Reader String := fun first rest =>
  if first = '"' then
    match stringTail rest with
    | .ok (text, tail) => .ok (String.ofList text, tail)
    | .error fault => .error fault
  else .error (wrongType first rest)

/-- Reads `true` or `false`. -/
def flag : Reader Bool := fun first rest =>
  if first = 't' then
    match literal ['r', 'u', 'e'] rest with
    | .ok tail => .ok (true, tail)
    | .error fault => .error fault
  else if first = 'f' then
    match literal ['a', 'l', 's', 'e'] rest with
    | .ok tail => .ok (false, tail)
    | .error fault => .error fault
  else .error (wrongType first rest)

/-- Reads `null` or a value. -/
def optional {α : Type} (reader : Reader α) : Reader (Option α) := fun first rest =>
  if first = 'n' then
    match literal ['u', 'l', 'l'] rest with
    | .ok tail => .ok (none, tail)
    | .error fault => .error fault
  else reader.map some first rest

/-! ### Arrays -/

/-- The elements of an array up to its end. -/
def elements {α : Type} (reader : Reader α) (atStart : Bool) (text : List Char) :
    Except Fault (List α × Tail text) :=
  match token? text with
  | none => .error .truncated
  | some ⟨first, rest, shorter⟩ =>
    if first = ']' then
      if atStart then .ok ([], ⟨rest, Nat.le_of_lt shorter⟩) else .error .malformed
    else
      match reader first rest with
      | .error fault => .error fault
      | .ok (value, ⟨after, after_le⟩) =>
        match token? after with
        | none => .error .truncated
        | some ⟨next, following, following_lt⟩ =>
          if next = ']' then .ok ([value], ⟨following, by omega⟩)
          else if next = ',' then
            match elements reader false following with
            | .error fault => .error fault
            | .ok (values, tail) => .ok (value :: values, tail.after (by omega))
          else .error .malformed
termination_by text.length

/-- Reads an array of values of one type. -/
def array {α : Type} (reader : Reader α) : Reader (List α) := fun first rest =>
  if first = '[' then elements reader true rest else .error (wrongType first rest)

/-! ### Records -/

/-- A field of a record that is read into a draft. -/
structure Field (σ : Type) where
  name : String
  /-- The draft has the field already. -/
  isSet : σ → Bool
  /-- Reads the field into the draft. -/
  read : σ → Reader σ

/-- The reader for a member of an object: a field, once, or a member to skip. -/
def memberReader {σ : Type} (fields : List (Field σ)) (draft : σ) (name : List Char) :
    Except Fault (Reader σ) :=
  match fields.find? (·.name.toList == name) with
  | none => .ok (skip draft)
  | some field => if field.isSet draft then .error .mistyped else .ok (field.read draft)

/-- The members of an object up to its end. -/
def members {σ : Type} (fields : List (Field σ)) (draft : σ) (atStart : Bool)
    (text : List Char) : Except Fault (σ × Tail text) :=
  match token? text with
  | none => .error .truncated
  | some ⟨first, rest, shorter⟩ =>
    if first = '\x7d' then
      if atStart then .ok (draft, ⟨rest, Nat.le_of_lt shorter⟩) else .error .malformed
    else if first = '"' then
      match stringTail rest with
      | .error fault => .error fault
      | .ok (name, ⟨afterName, afterName_le⟩) =>
        match memberReader fields draft name with
        | .error fault => .error fault
        | .ok reader =>
          match token? afterName with
          | none => .error .truncated
          | some ⟨colon, beforeValue, beforeValue_lt⟩ =>
            if colon = ':' then
              match token? beforeValue with
              | none => .error .truncated
              | some ⟨value, inValue, inValue_lt⟩ =>
                match reader value inValue with
                | .error fault => .error fault
                | .ok (draft, ⟨after, after_le⟩) =>
                  match token? after with
                  | none => .error .truncated
                  | some ⟨next, following, following_lt⟩ =>
                    if next = '\x7d' then .ok (draft, ⟨following, by omega⟩)
                    else if next = ',' then
                      match members fields draft false following with
                      | .error fault => .error fault
                      | .ok (draft, tail) => .ok (draft, tail.after (by omega))
                    else .error .malformed
            else .error .malformed
    else .error .malformed
termination_by text.length

/-- The end of an array whose last field was read. -/
def positionsEnd {σ : Type} (draft : σ) (text : List Char) : Except Fault (σ × Tail text) :=
  match token? text with
  | none => .error .truncated
  | some ⟨first, rest, shorter⟩ =>
    if first = ']' then .ok (draft, ⟨rest, Nat.le_of_lt shorter⟩) else .error .malformed

/-- The fields of a record in their order, up to the end of the array. The array may end
early. -/
def positions {σ : Type} (fields : List (Field σ)) (draft : σ) (atStart : Bool)
    (text : List Char) : Except Fault (σ × Tail text) :=
  match fields with
  | [] => positionsEnd draft text
  | field :: fields =>
    let read (first : Char) (rest : List Char) (h : rest.length < text.length) :
        Except Fault (σ × Tail text) :=
      match field.read draft first rest with
      | .error fault => .error fault
      | .ok (draft, ⟨after, after_le⟩) =>
        match positions fields draft false after with
        | .error fault => .error fault
        | .ok (draft, tail) => .ok (draft, tail.after (by omega))
    match token? text with
    | none => .error .truncated
    | some ⟨first, rest, shorter⟩ =>
      if first = ']' then .ok (draft, ⟨rest, Nat.le_of_lt shorter⟩)
      else if atStart then read first rest shorter
      else if first = ',' then
        match token? rest with
        | none => .error .truncated
        | some ⟨next, following, following_lt⟩ =>
          if next = ']' then .error .malformed else read next following (by omega)
      else .error .malformed

/-- Reads a record: its fields go into a draft, and the finished draft is the record unless
it lacks a field. -/
def record {σ α : Type} (fields : List (Field σ)) (blank : σ) (finish : σ → Option α) :
    Reader α := fun first rest =>
  let finished (result : Except Fault (σ × Tail rest)) : Except Fault (α × Tail rest) :=
    match result with
    | .error fault => .error fault
    | .ok (draft, tail) =>
      match finish draft with
      | some value => .ok (value, tail)
      | none => .error .mistyped
  if first = '\x7b' then finished (members fields blank true rest)
  else if first = '[' then finished (positions fields blank true rest)
  else .error (wrongType first rest)

/-! ### Whole texts -/

/-- Reads a text that holds one value and nothing else. -/
def read {α : Type} (reader : Reader α) (text : List Char) : Except Fault α :=
  match token? text with
  | none => .error .truncated
  | some ⟨first, rest, _⟩ =>
    match reader first rest with
    | .error fault => .error fault
    | .ok (value, tail) =>
      match token? tail.1 with
      | none => .ok value
      | some _ => .error .malformed

end Radius.Json
