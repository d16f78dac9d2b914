import Radius.Bytes
import Radius.Text.Digits
import Radius.Text.Parts

/-!
# `Radius.Address.V4`: IPv4 addresses

An address is four bytes, written as four decimal numbers with dots between them. The
reader accepts exactly the written forms: four numbers below 256, none with a leading zero
(`read?_eq_some_iff`).
-/

set_option autoImplicit false

namespace Radius

/-- An IPv4 address, most significant byte first. -/
structure V4 where
  a : UInt8
  b : UInt8
  c : UInt8
  d : UInt8
  deriving DecidableEq, Repr, Inhabited

namespace V4

/-- The four bytes of an address. -/
def bytes (address : V4) : List UInt8 :=
  [address.a, address.b, address.c, address.d]

/-- The address that four bytes hold. -/
def ofBytes? : List UInt8 → Option V4
  | [a, b, c, d] => some ⟨a, b, c, d⟩
  | _ => none

/-- The address as a number below `2 ^ 32`. -/
def toNat (address : V4) : Nat :=
  bigEndianValue address.bytes

/-- Four decimal numbers with dots between them. -/
def written (address : V4) : List Char :=
  Text.joined ['.'] (address.bytes.map fun byte => Decimal.digits byte.toNat)

/-- The text of an address. -/
def text (address : V4) : String :=
  String.ofList address.written

/-- A number below 256 without a leading zero. -/
def byte? (text : List Char) : Option UInt8 :=
  match text with
  | '0' :: _ :: _ => none
  | _ =>
    match Decimal.value? text with
    | some n => if n < 256 then some (UInt8.ofNat n) else none
    | none => none

/-- The address that a text spells. -/
def read? (text : List Char) : Option V4 :=
  match Text.fields '.' text with
  | [a, b, c, d] =>
    match byte? a, byte? b, byte? c, byte? d with
    | some a, some b, some c, some d => some ⟨a, b, c, d⟩
    | _, _, _, _ => none
  | _ => none

/-- An address has four bytes. -/
@[simp] theorem length_bytes (address : V4) : address.bytes.length = 4 := rfl

/-- The bytes of an address hold it. -/
@[simp] theorem ofBytes?_bytes (address : V4) : ofBytes? address.bytes = some address := rfl

/-- Only the four bytes of an address hold it. -/
theorem ofBytes?_eq_some_iff {bytes : List UInt8} {address : V4} :
    ofBytes? bytes = some address ↔ bytes = address.bytes := by
  constructor
  · intro h
    match bytes, h with
    | [_, _, _, _], h =>
      cases h
      rfl
  · rintro rfl
    rfl

/-- The digits of a byte are read back. They have a zero in front for zero alone. -/
theorem byte?_digits (byte : UInt8) : byte? (Decimal.digits byte.toNat) = some byte := by
  have hsmall := byte.toNat_lt
  unfold byte?
  split
  next c rest hleading =>
    have hzero : byte.toNat = 0 := by
      apply Decidable.byContradiction
      intro hpositive
      exact Decimal.head?_digits_ne_zero hpositive (by rw [hleading]; rfl)
    rw [hzero] at hleading
    simp [Decimal.digits] at hleading
  next =>
    rw [Decimal.value?_digits]
    simp only [UInt8.ofNat_toNat]
    rw [if_pos hsmall]

/-- A text spells a byte exactly if it is made of its digits. -/
theorem byte?_eq_some_iff {text : List Char} {byte : UInt8} :
    byte? text = some byte ↔ text = Decimal.digits byte.toNat := by
  have hsmall := byte.toNat_lt
  constructor
  · intro h
    unfold byte? at h
    split at h
    next => cases h
    next hleading =>
    split at h
    next n hvalue =>
      split at h
      next hbelow =>
        cases h
        rw [UInt8.toNat_ofNat_of_lt' hbelow]
        symm
        apply Decimal.digits_of_value? hvalue
        intro hzero
        cases text with
        | nil => cases hzero
        | cons c rest =>
          obtain rfl : c = '0' := Option.some.inj hzero
          cases rest with
          | nil => rfl
          | cons next others => exact absurd rfl (hleading next others)
      next => cases h
    next => cases h
  · rintro rfl
    exact byte?_digits byte

/-- A text spells an address exactly if it is the written form of the address. -/
theorem read?_eq_some_iff {text : List Char} {address : V4} :
    read? text = some address ↔ text = address.written := by
  constructor
  · intro h
    unfold read? at h
    split at h
    next a b c d hfields =>
      split at h
      next a' b' c' d' ha hb hc hd =>
        cases h
        rw [byte?_eq_some_iff] at ha hb hc hd
        subst ha hb hc hd
        rw [written, ← Text.joined_fields '.' text, hfields]
        rfl
      next => cases h
    next => cases h
  · rintro rfl
    have hcut : Text.fields '.' address.written
        = address.bytes.map fun byte => Decimal.digits byte.toNat := by
      apply Text.fields_joined (by simp [bytes])
      intro piece hpiece hdot
      obtain ⟨byte, _, rfl⟩ := List.mem_map.1 hpiece
      have hdigit := Decimal.isSome_digitValue?_of_mem_digits hdot
      cases hdigit
    rw [read?, hcut]
    simp only [bytes, List.map_cons, List.map_nil, byte?_digits]

end V4

end Radius
