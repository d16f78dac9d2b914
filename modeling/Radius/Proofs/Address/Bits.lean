import Mathlib.Algebra.Group.Nat.Defs
import Radius.Address

/-!
# `Radius.Proofs.Address.Bits`: the bits of an address

The bits of an address are those of its bytes or groups, in the order of the wire
(`Address.bits`). An address is also a number (`Address.toNat`), and a mask is a shift of that
number. This module takes the one to the other:

* `bitsOf_append`: a number shifted up by a width and one below that width, side by side.
* `take_bitsOf`: the first bits of a number are those of the shifted number.
* `bitsOf_inj`: numbers below `2 ^ width` are told apart by their bits.
* `Address.bits_eq`: the bits of an address are the bits of its number, for either family.
* `Address.eq_of_bits`: addresses of one family with the same bits are the same.
-/

set_option autoImplicit false

namespace Radius

/-- The low `width` bits of a number, most significant first. -/
def bitsOf : Nat → Nat → List Bool
  | 0, _ => []
  | width + 1, n => bitsOf width (n / 2) ++ [n % 2 == 1]

/-! ### Bits of numbers -/

/-- The width is the number of bits. -/
@[simp] theorem length_bitsOf (width n : Nat) : (bitsOf width n).length = width := by
  induction width generalizing n with
  | zero => rfl
  | succ width ih => simp [bitsOf, ih]

/-- A number that was shifted up makes room for one below the width of the shift. -/
theorem bitsOf_append {back n : Nat} (h : n < 2 ^ back) (front m : Nat) :
    bitsOf (front + back) (m * 2 ^ back + n) = bitsOf front m ++ bitsOf back n := by
  -- From the last bit on, which is where `bitsOf` splits.
  induction back generalizing n with
  | zero =>
    obtain rfl : n = 0 := by simpa using h
    simp [bitsOf]
  | succ back ih =>
    have hpow : m * 2 ^ (back + 1) = 2 * (m * 2 ^ back) := by
      rw [Nat.pow_succ, ← Nat.mul_assoc, Nat.mul_comm]
    have hhalf : n / 2 < 2 ^ back := by
      rw [Nat.pow_succ] at h
      omega
    have hquotient : (m * 2 ^ (back + 1) + n) / 2 = m * 2 ^ back + n / 2 := by omega
    have hremainder : (m * 2 ^ (back + 1) + n) % 2 = n % 2 := by omega
    show bitsOf (front + back) ((m * 2 ^ (back + 1) + n) / 2)
        ++ [(m * 2 ^ (back + 1) + n) % 2 == 1]
      = bitsOf front m ++ (bitsOf back (n / 2) ++ [n % 2 == 1])
    rw [hquotient, hremainder, ih hhalf, List.append_assoc]

/-- The first bits of a number are those of what a shift by the other bits leaves. -/
theorem take_bitsOf {length width : Nat} (h : length ≤ width) (n : Nat) :
    (bitsOf width n).take length = bitsOf length (n >>> (width - length)) := by
  obtain ⟨back, rfl⟩ := Nat.exists_eq_add_of_le h
  have hsplit : n = n / 2 ^ back * 2 ^ back + n % 2 ^ back := by
    rw [Nat.mul_comm, Nat.div_add_mod]
  have hbits := bitsOf_append (Nat.mod_lt n (Nat.two_pow_pos back)) length (n / 2 ^ back)
  rw [← hsplit] at hbits
  rw [hbits, List.take_left' (length_bitsOf _ _), Nat.add_sub_cancel_left,
    Nat.shiftRight_eq_div_pow]

/-- Bits tell the numbers of their width apart. -/
theorem bitsOf_inj {width m n : Nat} (hm : m < 2 ^ width) (hn : n < 2 ^ width) :
    bitsOf width m = bitsOf width n ↔ m = n := by
  constructor
  · intro h
    induction width generalizing m n with
    | zero =>
      have hm : m = 0 := by simpa using hm
      have hn : n = 0 := by simpa using hn
      rw [hm, hn]
    | succ width ih =>
      rw [Nat.pow_succ] at hm hn
      obtain ⟨hfront, hlast⟩ := List.append_inj' h rfl
      have hhalf : m / 2 = n / 2 := ih (by omega) (by omega) hfront
      have hlast : (m % 2 == 1) = (n % 2 == 1) := (List.cons.inj hlast).1
      have hparity : m % 2 = 1 ↔ n % 2 = 1 := by simpa using Bool.eq_iff_iff.1 hlast
      omega
  · rintro rfl
    rfl

/-! ### Digits in a row -/

section
variable {α : Type} {back : Nat} {value : α → Nat}

/-- The number that some digits make after a number that was there before them. -/
def rowValue (back : Nat) (value : α → Nat) (row : List α) (acc : Nat) : Nat :=
  row.foldl (fun acc digit => acc * 2 ^ back + value digit) acc

/-- The bits of a row of digits, digit by digit. -/
theorem bitsOf_rowValue (hvalue : ∀ digit, value digit < 2 ^ back) (row : List α)
    (front acc : Nat) :
    bitsOf (front + back * row.length) (rowValue back value row acc)
      = bitsOf front acc ++ row.flatMap fun digit => bitsOf back (value digit) := by
  -- The digits before the row are part of the statement, since each step adds one to them.
  induction row generalizing front acc with
  | nil => simp [rowValue]
  | cons digit row ih =>
    have hwidth : front + back * (digit :: row).length = front + back + back * row.length := by
      rw [List.length_cons, Nat.mul_succ]
      omega
    have hrest := ih (front + back) (acc * 2 ^ back + value digit)
    rw [bitsOf_append (hvalue digit), List.append_assoc] at hrest
    rw [hwidth]
    exact hrest

/-- A row of digits makes a number of their widths together. -/
theorem rowValue_lt (hvalue : ∀ digit, value digit < 2 ^ back) (row : List α) {front acc : Nat}
    (hacc : acc < 2 ^ front) :
    rowValue back value row acc < 2 ^ (front + back * row.length) := by
  induction row generalizing front acc with
  | nil => simpa [rowValue] using hacc
  | cons digit row ih =>
    have hnext : acc * 2 ^ back + value digit < 2 ^ (front + back) := by
      have hdigit := hvalue digit
      calc acc * 2 ^ back + value digit < (acc + 1) * 2 ^ back := by
            rw [Nat.add_mul, Nat.one_mul]
            omega
        _ ≤ 2 ^ front * 2 ^ back := Nat.mul_le_mul_right _ hacc
        _ = 2 ^ (front + back) := (Nat.pow_add 2 front back).symm
    have hrest := ih hnext
    rw [Nat.add_assoc, Nat.add_comm back, ← Nat.mul_succ] at hrest
    exact hrest

/-- Rows of one length are told apart by their bits, if digits are. -/
theorem eq_of_flatMap_bitsOf (hvalue : ∀ digit, value digit < 2 ^ back)
    (hinj : ∀ x y, value x = value y → x = y) {row other : List α}
    (hlength : row.length = other.length)
    (h : (row.flatMap fun digit => bitsOf back (value digit))
      = other.flatMap fun digit => bitsOf back (value digit)) : row = other := by
  induction row generalizing other with
  | nil => exact (List.eq_nil_of_length_eq_zero hlength.symm).symm
  | cons digit row ih =>
    cases other with
    | nil => cases hlength
    | cons otherDigit other =>
      obtain ⟨hfirst, hrest⟩ := List.append_inj h (by simp)
      rw [bitsOf_inj (hvalue _) (hvalue _)] at hfirst
      rw [hinj _ _ hfirst, ih (Nat.succ.inj hlength) hrest]

end

/-! ### Bits of addresses -/

/-- The bits of the four bytes. -/
def V4.bits (address : V4) : List Bool :=
  address.bytes.flatMap fun byte => bitsOf 8 byte.toNat

/-- The bits of the eight groups. -/
def V6.bits (address : V6) : List Bool :=
  address.groups.flatMap fun group => bitsOf 16 group.toNat

namespace Address

/-- The bits of an address, in the order of the wire. -/
def bits : Address → List Bool
  | .v4 address => address.bits
  | .v6 address => address.bits

/-- The bits of an address are those of its number, which fits into them. -/
theorem bits_eq_and_toNat_lt (address : Address) :
    address.bits = bitsOf address.width address.toNat ∧ address.toNat < 2 ^ address.width := by
  have hzero : 0 < 2 ^ 0 := by decide
  cases address with
  | v4 address =>
    have hvalue : ∀ byte : UInt8, byte.toNat < 2 ^ 8 := UInt8.toNat_lt
    have hbits := bitsOf_rowValue hvalue address.bytes 0 0
    have hlt := rowValue_lt hvalue address.bytes hzero
    exact ⟨hbits.symm, hlt⟩
  | v6 address =>
    have hvalue : ∀ group : UInt16, group.toNat < 2 ^ 16 := UInt16.toNat_lt
    have hwidth : 0 + 16 * address.groups.length = (Address.v6 address).width := by
      rw [address.length_groups]
      rfl
    have hnumber : rowValue 16 UInt16.toNat address.groups 0 = (Address.v6 address).toNat := rfl
    have hbits := bitsOf_rowValue hvalue address.groups 0 0
    have hlt := rowValue_lt hvalue address.groups hzero
    rw [hwidth, hnumber] at hbits hlt
    exact ⟨hbits.symm, hlt⟩

/-- The bits of an address, as a number. -/
theorem bits_eq (address : Address) : address.bits = bitsOf address.width address.toNat :=
  address.bits_eq_and_toNat_lt.1

/-- The number of an address is below the power of its width. -/
theorem toNat_lt (address : Address) : address.toNat < 2 ^ address.width :=
  address.bits_eq_and_toNat_lt.2

/-- An address has as many bits as its family is wide. -/
theorem length_bits (address : Address) : address.bits.length = address.width := by
  rw [bits_eq, length_bitsOf]

/-- The addresses of a family are told apart by their bits. -/
theorem eq_of_bits {address other : Address} (hfamily : address.sameFamily other = true)
    (h : address.bits = other.bits) : address = other := by
  -- Within a family the rows of digits have one length, so their bits tell them apart.
  cases address with
  | v4 address =>
    cases other with
    | v4 other =>
      have hbytes : address.bytes = other.bytes :=
        eq_of_flatMap_bitsOf (fun byte => byte.toNat_lt) (fun _ _ => UInt8.toNat.inj) rfl h
      have hother := V4.ofBytes?_bytes other
      rw [← hbytes, V4.ofBytes?_bytes] at hother
      rw [Option.some.inj hother]
    | v6 other => cases hfamily
  | v6 address =>
    cases other with
    | v4 other => cases hfamily
    | v6 other =>
      have hgroups : address.groups = other.groups :=
        eq_of_flatMap_bitsOf (fun group => group.toNat_lt) (fun _ _ => UInt16.toNat.inj)
          (address.length_groups.trans other.length_groups.symm) h
      rw [V6.ext hgroups]

/-- The number of bits is a matter of the family. -/
theorem width_eq_of_sameFamily {address other : Address}
    (h : address.sameFamily other = true) : address.width = other.width := by
  cases address with
  | v4 => cases other with
    | v4 => rfl
    | v6 => cases h
  | v6 => cases other with
    | v4 => cases h
    | v6 => rfl

end Address

end Radius
