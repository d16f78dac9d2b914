import Radius.Json.Text
import Radius.Text.Digits

/-!
# `Radius.Json.Number`: numbers in JSON

No field of a configuration is a number, so numbers are only ever skipped, or found where
another type is wanted. In the second case a number past the range of double precision
breaks the grammar before its type can disappoint; `Number.isTooLarge` decides this in exact
arithmetic.
-/

set_option autoImplicit false

namespace Radius.Json

open Text

/-- The digits of a number, as they stand. -/
structure Number where
  whole : List Char
  fraction : List Char
  /-- The exponent is negative. -/
  shrinks : Bool
  exponent : List Char

/-- A decimal digit. -/
def isDigit (c : Char) : Bool :=
  48 ≤ c.toNat && c.toNat ≤ 57

/-! ### Reading -/

/-- The digits that follow a first one. -/
def moreDigits (text : List Char) : List Char × Tail text :=
  (text.takeWhile isDigit, .dropWhile isDigit text)

/-- A nonempty run of digits. A text that ends before the first has the fault `atEnd`. -/
def digitRun (atEnd : Fault) (text : List Char) : Except Fault (List Char × Tail text) :=
  match text with
  | [] => .error atEnd
  | c :: rest =>
    if isDigit c then
      let (digits, tail) := moreDigits rest
      .ok (c :: digits, tail.cons _)
    else .error .malformed

/-- The digits before the point: a zero alone, or a run that begins with another digit. -/
def wholePart (first : Char) (rest : List Char) : Except Fault (List Char × Tail rest) :=
  if first = '0' then
    match rest with
    | c :: following =>
      if isDigit c then .error .malformed else .ok (['0'], .all (c :: following))
    | [] => .ok (['0'], .all [])
  else if isDigit first then
    let (digits, tail) := moreDigits rest
    .ok (first :: digits, tail)
  else .error .malformed

/-- The digits after the point, if there is one. -/
def fractionPart (atEnd : Fault) (text : List Char) : Except Fault (List Char × Tail text) :=
  match text with
  | '.' :: rest =>
    match digitRun atEnd rest with
    | .ok (digits, tail) => .ok (digits, tail.cons _)
    | .error fault => .error fault
  | text => .ok ([], .all text)

/-- The exponent and whether it is negative, if there is one. -/
def exponentPart (atEnd : Fault) (text : List Char) :
    Except Fault (Bool × List Char × Tail text) :=
  match text with
  | c :: rest =>
    if c = 'e' ∨ c = 'E' then
      let signed : Bool × Tail rest :=
        match rest with
        | '+' :: rest => (false, (Tail.all rest).cons _)
        | '-' :: rest => (true, (Tail.all rest).cons _)
        | rest => (false, .all rest)
      match digitRun atEnd signed.2.1 with
      | .ok (digits, tail) =>
        .ok (signed.1, digits, (signed.2.andThen tail).cons _)
      | .error fault => .error fault
    else .ok (false, [], .all (c :: rest))
  | [] => .ok (false, [], .all [])

/-- A number without its sign, from its first digit. -/
def unsignedNumber (atEnd : Fault) (first : Char) (rest : List Char) :
    Except Fault (Number × Tail rest) :=
  match wholePart first rest with
  | .error fault => .error fault
  | .ok (whole, afterWhole) =>
    match fractionPart atEnd afterWhole.1 with
    | .error fault => .error fault
    | .ok (fraction, afterFraction) =>
      match exponentPart atEnd afterFraction.1 with
      | .error fault => .error fault
      | .ok (shrinks, exponent, tail) =>
        .ok (⟨whole, fraction, shrinks, exponent⟩,
          afterWhole.andThen (afterFraction.andThen tail))

/-- The number that a first character begins, a minus sign or a digit. A text that ends where
the number needs a digit has the fault `atEnd`. -/
def number (atEnd : Fault) (first : Char) (rest : List Char) :
    Except Fault (Number × Tail rest) :=
  if first = '-' then
    match rest with
    | [] => .error atEnd
    | digit :: following =>
      match unsignedNumber atEnd digit following with
      | .ok (number, tail) => .ok (number, tail.cons _)
      | .error fault => .error fault
  else unsignedNumber atEnd first rest

/-! ### Range -/

/-- The nearest number with at most fifty-three significant bits; a tie goes to the even
one. -/
def nearestDouble (n : Nat) : Nat :=
  let spare := n.log2 - 52
  let unit := 1 <<< spare
  let quotient := n / unit
  let twice := 2 * (n % unit)
  if unit < twice ∨ (twice = unit ∧ quotient % 2 = 1) then (quotient + 1) * unit
  else quotient * unit

/-- The least number that is nearer to twice the highest power of two in the range of double
precision than to the highest number in it. -/
def doubleLimit : Nat :=
  (1 <<< 1024) - (1 <<< 970)

/-- Digits read on top of a significand as long as sixty-four bits hold it. The digits that
are left over follow. -/
def significand : Nat → List Char → Nat × List Char
  | acc, [] => (acc, [])
  | acc, c :: rest =>
    let next := 10 * acc + (c.toNat - 48)
    if next < UInt64.size then significand next rest else (acc, c :: rest)

/-- The number is past the range of double precision, as far as sixty-four bits of its digits
tell. -/
def Number.isTooLarge (number : Number) : Bool :=
  let (whole, dropped) := significand 0 number.whole
  let (digits, unread) := significand whole number.fraction
  let written := (Decimal.value? number.exponent).getD 0
  let exponent : Int := dropped.length - (number.fraction.length - unread.length : Nat)
    + (if number.shrinks then -(written : Int) else written)
  if digits = 0 ∨ exponent < 0 then false
  else if 308 < exponent then true
  else
    doubleLimit ≤ nearestDouble digits * nearestDouble (Nat.pow 10 exponent.toNat)

end Radius.Json
