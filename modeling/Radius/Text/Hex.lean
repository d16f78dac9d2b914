import Radius.Text.Digits
import Radius.Text.Quoted
import Radius.Text.Utf8

/-!
# `Radius.Text.Hex`: bytes in hexadecimal

`encode` writes two lowercase digits for each byte. `decode` reads digits of either case and
names the first fault: an odd number of digits before anything else, then the first byte of
the text that is no digit.
-/

set_option autoImplicit false

namespace Radius.Hex

/-- The two digits of a byte, high half first. -/
def byteDigits (byte : UInt8) : List Char :=
  [Text.hexDigit (byte.toNat / 16), Text.hexDigit byte.toNat]

/-- The digits of some bytes. -/
def digits (bytes : List UInt8) : List Char :=
  bytes.flatMap byteDigits

/-- The digits of some bytes, as a string. -/
def encode (bytes : List UInt8) : String :=
  String.ofList (digits bytes)

/-- Why a text spells no bytes. -/
inductive Fault
  | oddLength
  | badDigit (byte : UInt8) (position : Nat)
  deriving DecidableEq, Repr

/-- The wording of a fault. A byte that is no digit is shown as the character of its number. -/
def Fault.message : Fault → String
  | .oddLength => "Odd number of digits"
  | .badDigit byte position =>
    let shown := String.ofList (Text.quoted '\'' [Char.ofNat byte.toNat])
    s!"Invalid character {shown} at position {position}"

/-- The value of the digit that a byte spells. -/
def digitValue? (byte : UInt8) : Option Nat :=
  Text.hexValue? (Char.ofNat byte.toNat)

/-- Pairs of digits from a position of the text on. -/
def pairs : Nat → List UInt8 → Except Fault (List UInt8)
  | _, [] => .ok []
  | _, [_] => .error .oddLength
  | position, high :: low :: rest =>
    match digitValue? high, digitValue? low with
    | none, _ => .error (.badDigit high position)
    | some _, none => .error (.badDigit low (position + 1))
    | some h, some l => (pairs (position + 2) rest).map (UInt8.ofNat (16 * h + l) :: ·)

/-- The bytes that a text spells in hexadecimal. -/
def decode (text : String) : Except Fault (List UInt8) :=
  let bytes := Utf8.ofString text
  if bytes.length % 2 = 1 then .error .oddLength else pairs 0 bytes

end Radius.Hex
