import Radius.Block
import Radius.Bytes

/-!
# `Radius.Digest.Md5`: the MD5 digest

MD5 pads a message to blocks of sixty-four bytes, reads each block as sixteen little-endian
words and stirs them into a state of four words, in sixty-four steps that fall into four
rounds. `Md5.digest` is the whole of it; the instance at the end makes it the digest that
programs run with. No law of the library looks inside.
-/

set_option autoImplicit false

namespace Radius.Md5

/-- The four running words. -/
structure State where
  a : UInt32
  b : UInt32
  c : UInt32
  d : UInt32

/-- The words a digest starts from. -/
def State.initial : State := ⟨0x67452301, 0xefcdab89, 0x98badcfe, 0x10325476⟩

/-- What a step adds, where its word comes from and how far it rotates. -/
structure Step where
  constant : UInt32
  word : Nat
  shift : UInt32

/-- The sixty-four additive constants: the integer parts of `2 ^ 32 * |sin (i + 1)|`. -/
def constants : List UInt32 := [
  0xd76aa478, 0xe8c7b756, 0x242070db, 0xc1bdceee, 0xf57c0faf, 0x4787c62a, 0xa8304613, 0xfd469501,
  0x698098d8, 0x8b44f7af, 0xffff5bb1, 0x895cd7be, 0x6b901122, 0xfd987193, 0xa679438e, 0x49b40821,
  0xf61e2562, 0xc040b340, 0x265e5a51, 0xe9b6c7aa, 0xd62f105d, 0x02441453, 0xd8a1e681, 0xe7d3fbc8,
  0x21e1cde6, 0xc33707d6, 0xf4d50d87, 0x455a14ed, 0xa9e3e905, 0xfcefa3f8, 0x676f02d9, 0x8d2a4c8a,
  0xfffa3942, 0x8771f681, 0x6d9d6122, 0xfde5380c, 0xa4beea44, 0x4bdecfa9, 0xf6bb4b60, 0xbebfbc70,
  0x289b7ec6, 0xeaa127fa, 0xd4ef3085, 0x04881d05, 0xd9d4d039, 0xe6db99e5, 0x1fa27cf8, 0xc4ac5665,
  0xf4292244, 0x432aff97, 0xab9423a7, 0xfc93a039, 0x655b59c3, 0x8f0ccc92, 0xffeff47d, 0x85845dd1,
  0x6fa87e4f, 0xfe2ce6e0, 0xa3014314, 0x4e0811a1, 0xf7537e82, 0xbd3af235, 0x2ad7d2bb, 0xeb86d391]

/-- The rotations of the four rounds, each repeated four times within its round. -/
def shifts : Nat → List UInt32
  | 0 => [7, 12, 17, 22]
  | 1 => [5, 9, 14, 20]
  | 2 => [4, 11, 16, 23]
  | _ => [6, 10, 15, 21]

/-- The word that step `i` reads. -/
def wordIndex (i : Nat) : Nat :=
  match i / 16 with
  | 0 => i
  | 1 => (5 * i + 1) % 16
  | 2 => (3 * i + 5) % 16
  | _ => 7 * i % 16

/-- The bitwise function of each round. -/
def mix (round : Nat) (b c d : UInt32) : UInt32 :=
  match round with
  | 0 => (b &&& c) ||| (~~~b &&& d)
  | 1 => (d &&& b) ||| (~~~d &&& c)
  | 2 => b ^^^ c ^^^ d
  | _ => c ^^^ (b ||| ~~~d)

/-- Rotation to the left. -/
def rotateLeft (word shift : UInt32) : UInt32 :=
  (word <<< shift) ||| (word >>> (32 - shift))

/-- One step of the sixty-four, over the words of the current block. -/
def step (words : Array UInt32) (state : State) (indexed : UInt32 × Nat) : State :=
  let (constant, i) := indexed
  let shift := (shifts (i / 16)).getD (i % 4) 0
  let sum := state.a + mix (i / 16) state.b state.c state.d + constant
    + words.getD (wordIndex i) 0
  ⟨state.d, state.b + rotateLeft sum shift, state.b, state.c⟩

/-- The state after one block of sixteen words. -/
def compress (state : State) (words : Array UInt32) : State :=
  let mixed := constants.zipIdx.foldl (step words) state
  ⟨state.a + mixed.a, state.b + mixed.b, state.c + mixed.c, state.d + mixed.d⟩

/-- Bytes cut into pieces of `width`, the last piece possibly shorter. -/
def pieces (width : Nat) (bytes : List UInt8) : List (List UInt8) :=
  if width = 0 ∨ bytes = [] then [] else bytes.take width :: pieces width (bytes.drop width)
termination_by bytes.length
decreasing_by
  have hnonempty : 0 < bytes.length := List.length_pos_iff.2 (by simp_all)
  simp only [List.length_drop]
  omega

/-- The message followed by one set bit, zeros up to eight bytes short of a whole block, and
its length in bits, little-endian. -/
def pad (message : List UInt8) : List UInt8 :=
  let zeros := (119 - message.length % 64) % 64
  message ++ 0x80 :: List.replicate zeros 0 ++ (bigEndian 8 (8 * message.length)).reverse

/-- A word from its four bytes, least significant first. -/
def word (bytes : List UInt8) : UInt32 :=
  UInt32.ofNat (bigEndianValue bytes.reverse)

/-- The four bytes of a word, least significant first. -/
def wordBytes (word : UInt32) : List UInt8 :=
  (bigEndian 4 word.toNat).reverse

/-- The MD5 digest of a message. -/
def digest (message : List UInt8) : Block :=
  let blocks := (pieces 64 (pad message)).map fun block => ((pieces 4 block).map word).toArray
  let final := blocks.foldl compress State.initial
  ⟨wordBytes final.a ++ wordBytes final.b ++ wordBytes final.c ++ wordBytes final.d,
    by simp [wordBytes]⟩

end Radius.Md5

namespace Radius

/-- Programs run with MD5. -/
instance : Digest := ⟨Md5.digest⟩

end Radius
