/-!
# `Radius.Bytes`: numbers in network order

Numbers on the wire are written most significant byte first. `bigEndian` writes a number at
a given width and `bigEndianValue` reads bytes back. The lemmas say that the two undo each
other at every width, which is what the length fields and the integer attributes rest on.
-/

set_option autoImplicit false

namespace Radius

/-- The low `width` bytes of a number, most significant first. -/
def bigEndian : Nat → Nat → List UInt8
  | 0, _ => []
  | width + 1, n => bigEndian width (n / 256) ++ [UInt8.ofNat n]

/-- How many numbers have a form of their own at a width. -/
def capacity : Nat → Nat
  | 0 => 1
  | width + 1 => 256 * capacity width

/-- The number that bytes spell, most significant first. -/
def bigEndianValue (bytes : List UInt8) : Nat :=
  bytes.foldl (fun acc byte => acc * 256 + byte.toNat) 0

/-- The width is the number of bytes. -/
@[simp] theorem length_bigEndian (width n : Nat) : (bigEndian width n).length = width := by
  induction width generalizing n with
  | zero => rfl
  | succ width ih => simp [bigEndian, ih]

/-- One more byte moves the bytes before it up by one place. -/
theorem bigEndianValue_concat (bytes : List UInt8) (byte : UInt8) :
    bigEndianValue (bytes ++ [byte]) = bigEndianValue bytes * 256 + byte.toNat := by
  simp [bigEndianValue, List.foldl_append]

/-- Reading what was written gives the number back, reduced to the width. -/
theorem bigEndianValue_bigEndian (width n : Nat) :
    bigEndianValue (bigEndian width n) = n % capacity width := by
  induction width generalizing n with
  | zero => simp [bigEndian, bigEndianValue, capacity, Nat.mod_one]
  | succ width ih =>
    have hlow : (UInt8.ofNat n).toNat = n % 256 := by simp
    rw [bigEndian, bigEndianValue_concat, ih, hlow, capacity, Nat.mod_mul]
    omega

/-- Every list of bytes is the written form of the number it spells. -/
theorem bigEndian_bigEndianValue (bytes : List UInt8) :
    bigEndian bytes.length (bigEndianValue bytes) = bytes := by
  -- Bytes are written from the back, so the induction goes that way.
  suffices hreversed : ∀ reversed : List UInt8,
      bigEndian reversed.length (bigEndianValue reversed.reverse) = reversed.reverse by
    have h := hreversed bytes.reverse
    rwa [List.reverse_reverse, List.length_reverse] at h
  intro reversed
  induction reversed with
  | nil => rfl
  | cons byte rest ih =>
    have hbyte := byte.toNat_lt
    have hquotient : (bigEndianValue rest.reverse * 256 + byte.toNat) / 256
        = bigEndianValue rest.reverse := by omega
    have hlow : UInt8.ofNat (bigEndianValue rest.reverse * 256 + byte.toNat) = byte := by
      apply UInt8.toNat.inj
      simp only [UInt8.toNat_ofNat']
      omega
    rw [List.reverse_cons, bigEndianValue_concat, List.length_cons, bigEndian, hquotient, ih, hlow]

/-- Zero has a form at every width. -/
theorem capacity_pos (width : Nat) : 0 < capacity width := by
  induction width with
  | zero => decide
  | succ width ih =>
    rw [capacity]
    omega

/-- Bytes spell a number below the capacity of their width. -/
theorem bigEndianValue_lt (bytes : List UInt8) :
    bigEndianValue bytes < capacity bytes.length := by
  have h := bigEndianValue_bigEndian bytes.length (bigEndianValue bytes)
  rw [bigEndian_bigEndianValue] at h
  rw [h]
  exact Nat.mod_lt _ (capacity_pos _)

end Radius
