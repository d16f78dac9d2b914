/-!
# `Radius.Block`: sixteen bytes

An authenticator, a digest and a block of a hidden password all hold sixteen bytes, so they
share one type. `Block.split` cuts bytes into blocks, the last one padded with NUL. The blocks spell
the bytes and the padding after them (`flatMap_bytes_split`), and blocks that are strung
together are cut into themselves again (`split_flatMap_bytes`).

Authenticators and hidden passwords are made with one message digest from bytes to a block.
Everything in the library takes it as a class, so a law that is proved for `[Digest]` holds
whatever the digest computes. `Radius.Digest.Md5` holds the instance that programs run with.
-/

set_option autoImplicit false

namespace Radius

/-- Exactly sixteen bytes. -/
@[ext] structure Block where
  bytes : List UInt8
  length_bytes : bytes.length = 16
  deriving DecidableEq

/-- A message digest of sixteen bytes. -/
class Digest where
  /-- The digest of a whole message. -/
  hash : List UInt8 → Block

namespace Block

attribute [simp] Block.length_bytes

instance : Repr Block where
  reprPrec block _ := repr block.bytes

/-- The block of sixteen zero bytes. -/
def zero : Block := ⟨List.replicate 16 0, rfl⟩

instance : Inhabited Block := ⟨zero⟩

/-- The first sixteen of the bytes, padded with NUL when there are fewer. -/
def ofBytes (bytes : List UInt8) : Block :=
  ⟨(bytes ++ List.replicate 16 0).take 16, by simp⟩

/-- The block that holds exactly these bytes, when there are sixteen of them. -/
def ofBytes? (bytes : List UInt8) : Option Block :=
  if h : bytes.length = 16 then some ⟨bytes, h⟩ else none

/-- Bytewise exclusive or. -/
def xor (a b : Block) : Block :=
  ⟨List.zipWith (· ^^^ ·) a.bytes b.bytes, by simp⟩

/-- The bytes in blocks of sixteen, the last block padded with NUL. No bytes make one block
of padding. -/
def split (bytes : List UInt8) : List Block :=
  if bytes.length ≤ 16 then [ofBytes bytes] else ofBytes bytes :: split (bytes.drop 16)
termination_by bytes.length
decreasing_by
  simp only [List.length_drop]
  omega

/-- Sixteen bytes are their own block. -/
theorem ofBytes_of_length_eq {bytes : List UInt8} (h : bytes.length = 16) :
    ofBytes bytes = ⟨bytes, h⟩ := by
  apply Block.ext
  simp [ofBytes, h]

/-- A block holds the first sixteen bytes, and NUL in place of those that are missing. -/
theorem bytes_ofBytes (bytes : List UInt8) :
    (ofBytes bytes).bytes = bytes.take 16 ++ List.replicate (16 - bytes.length) 0 := by
  show (bytes ++ List.replicate 16 0).take 16 = _
  rw [List.take_append, List.take_replicate, Nat.min_eq_left (Nat.sub_le _ _)]

/-- Nothing is missing if there are sixteen bytes. -/
theorem bytes_ofBytes_of_le {bytes : List UInt8} (h : 16 ≤ bytes.length) :
    (ofBytes bytes).bytes = bytes.take 16 := by
  have hpadding : 16 - bytes.length = 0 := by omega
  simp [ofBytes, List.take_append, hpadding]

/-- Encrypting and decrypting are the same exclusive or. -/
theorem xor_xor_cancel (a b : Block) : (a.xor b).xor b = a := by
  apply Block.ext
  -- Byte by byte, over the two lists at once.
  have hcancel : ∀ (xs ys : List UInt8), xs.length = ys.length →
      List.zipWith (· ^^^ ·) (List.zipWith (· ^^^ ·) xs ys) ys = xs := by
    intro xs
    induction xs with
    | nil => intro ys _; simp
    | cons x xs ih =>
      intro ys h
      cases ys with
      | nil => simp at h
      | cons y ys =>
        have htail := ih ys (by simpa using h)
        simp only [List.zipWith_cons_cons, htail, List.cons.injEq, and_true]
        rw [UInt8.xor_assoc, UInt8.xor_self, UInt8.xor_zero]
  exact hcancel a.bytes b.bytes (by simp)

/-- How many blocks some bytes are cut into. -/
theorem length_split (bytes : List UInt8) :
    (split bytes).length = max 1 ((bytes.length + 15) / 16) := by
  fun_induction split bytes with
  | case1 bytes hshort =>
    simp only [List.length_cons, List.length_nil]
    omega
  | case2 bytes hlong ih =>
    rw [List.length_cons, ih, List.length_drop]
    omega

/-- Blocks spell sixteen bytes each. -/
theorem length_flatMap_bytes (blocks : List Block) :
    (blocks.flatMap Block.bytes).length = 16 * blocks.length := by
  induction blocks with
  | nil => rfl
  | cons block rest ih =>
    rw [List.flatMap_cons, List.length_append, ih, length_bytes, List.length_cons]
    omega

/-- The blocks spell the bytes and the padding after them. -/
theorem flatMap_bytes_split (bytes : List UInt8) :
    (split bytes).flatMap Block.bytes
      = bytes ++ List.replicate (16 * (split bytes).length - bytes.length) 0 := by
  fun_induction split bytes with
  | case1 bytes hshort =>
    have hall : bytes.take 16 = bytes := List.take_of_length_le hshort
    rw [List.flatMap_cons, List.flatMap_nil, List.append_nil, bytes_ofBytes, hall]
    rfl
  | case2 bytes hlong ih =>
    have hrest : 16 * (split (bytes.drop 16)).length - (bytes.drop 16).length
        = 16 * ((split (bytes.drop 16)).length + 1) - bytes.length := by
      rw [List.length_drop]
      omega
    rw [List.flatMap_cons, ih, bytes_ofBytes_of_le (by omega), ← List.append_assoc,
      List.take_append_drop, List.length_cons, hrest]

/-- Cutting the bytes of blocks gives the blocks back. -/
theorem split_flatMap_bytes {blocks : List Block} (h : blocks ≠ []) :
    split (blocks.flatMap Block.bytes) = blocks := by
  induction blocks with
  | nil => exact absurd rfl h
  | cons block rest ih =>
    rw [split, List.flatMap_cons]
    cases rest with
    | nil =>
      simp [ofBytes_of_length_eq block.length_bytes]
    | cons next others =>
      -- Another block follows, so cutting takes this one off and goes on.
      have hhead : ofBytes (block.bytes ++ (next :: others).flatMap Block.bytes) = block := by
        apply Block.ext
        rw [bytes_ofBytes_of_le (by simp)]
        simp
      have htail : (block.bytes ++ (next :: others).flatMap Block.bytes).drop 16
          = (next :: others).flatMap Block.bytes := by
        simp
      have hlong : ¬ (block.bytes ++ (next :: others).flatMap Block.bytes).length ≤ 16 := by
        rw [List.length_append, length_flatMap_bytes, length_bytes, List.length_cons]
        omega
      rw [if_neg hlong, hhead, htail, ih (by simp)]

end Block

end Radius
