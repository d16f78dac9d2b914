import Radius.Block
import Radius.Error
import Radius.Text.Utf8

/-!
# `Radius.Password`: hidden passwords

A password travels hidden. It is cut into blocks of sixteen bytes, the last padded with NUL,
and each block is combined with the digest of the shared secret followed by the block hidden
before it; the packet's authenticator stands before the first. Revealing undoes this and
drops the padding. That block by block the two undo each other is
`revealBlocks_hideBlocks` and `hideBlocks_revealBlocks`.
-/

set_option autoImplicit false

namespace Radius.Password

variable [Digest]

/-- What a block is combined with, after the block hidden before it. -/
def keystream (secret : List UInt8) (previous : Block) : Block :=
  Digest.hash (secret ++ previous.bytes)

/-- The hidden blocks of a password, after the block hidden before them. -/
def hideBlocks (secret : List UInt8) : Block → List Block → List Block
  | _, [] => []
  | previous, block :: rest =>
    let hidden := block.xor (keystream secret previous)
    hidden :: hideBlocks secret hidden rest

/-- The blocks of a password from its hidden blocks, after the block hidden before them. -/
def revealBlocks (secret : List UInt8) : Block → List Block → List Block
  | _, [] => []
  | previous, hidden :: rest =>
    hidden.xor (keystream secret previous) :: revealBlocks secret hidden rest

/-- The hidden form of a password. -/
def hide (password secret : List UInt8) (authenticator : Block) : List UInt8 :=
  (hideBlocks secret authenticator (Block.split password)).flatMap Block.bytes

/-- Bytes without the NUL bytes at their end. -/
def dropPadding (bytes : List UInt8) : List UInt8 :=
  (bytes.reverse.dropWhile (· == 0)).reverse

/-- The password behind a hidden form. -/
def reveal (hidden secret : List UInt8) (authenticator : Block) : Except CodecError String :=
  if hidden.length = 0 ∨ hidden.length % 16 ≠ 0 then
    .error (.invalidPasswordLength hidden.length)
  else
    let blocks := revealBlocks secret authenticator (Block.split hidden)
    match Utf8.toString? (dropPadding (blocks.flatMap Block.bytes)) with
    | some password => .ok password
    | none => .error .invalidUtf8

/-- Hiding keeps the number of blocks. -/
theorem length_hideBlocks (secret : List UInt8) (previous : Block) (blocks : List Block) :
    (hideBlocks secret previous blocks).length = blocks.length := by
  induction blocks generalizing previous with
  | nil => rfl
  | cons block rest ih => simp [hideBlocks, ih]

/-- Revealing undoes hiding, block by block. -/
theorem revealBlocks_hideBlocks (secret : List UInt8) (previous : Block) (blocks : List Block) :
    revealBlocks secret previous (hideBlocks secret previous blocks) = blocks := by
  induction blocks generalizing previous with
  | nil => rfl
  | cons block rest ih => simp [hideBlocks, revealBlocks, ih, Block.xor_xor_cancel]

/-- Hiding undoes revealing, block by block. -/
theorem hideBlocks_revealBlocks (secret : List UInt8) (previous : Block) (blocks : List Block) :
    hideBlocks secret previous (revealBlocks secret previous blocks) = blocks := by
  induction blocks generalizing previous with
  | nil => rfl
  | cons block rest ih => simp [hideBlocks, revealBlocks, ih, Block.xor_xor_cancel]

end Radius.Password
