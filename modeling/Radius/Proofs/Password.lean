import Mathlib.Data.List.DropRight
import Radius.Password
import Radius.Text.Utf8.RoundTrip

/-!
# `Radius.Proofs.Password`: hiding and revealing whole passwords

`Radius.Password` shows that the two chains of blocks undo each other. Around the chains
stand the padding, which revealing drops, and the reading of bytes as text. The theorems:

* `length_hide`: a hidden password fills whole blocks, one at least.
* `reveal_hide`: revealing a hidden password gives it back without the NUL bytes at its end,
  if what is left spells text.
* `reveal_eq_ok_iff`: which hidden forms reveal a text.
* `hide_eq_iff_of_reveal`: hiding a revealed text again gives the hidden form that it came
  from exactly if that form has no more blocks than the text needs. Revealing forgets how
  much padding there was, so this is the only way in which the hidden form can differ.
-/

set_option autoImplicit false

namespace Radius

/-! ### The end of a list -/

/-- What is dropped from the end of a list is one element many times. -/
theorem exists_append_replicate {α : Type} [DecidableEq α] (a : α) (l : List α) :
    ∃ n, l = l.rdropWhile (· == a) ++ List.replicate n a := by
  have hsame : l.rtakeWhile (· == a)
      = List.replicate (l.rtakeWhile (· == a)).length a := by
    apply List.eq_replicate_of_mem
    intro b hb
    have hbeq : (b == a) = true := List.mem_rtakeWhile_imp (p := fun b : α => b == a) hb
    exact eq_of_beq hbeq
  refine ⟨(l.rtakeWhile (· == a)).length, ?_⟩
  rw [← hsame]
  exact List.rdropWhile_append_rtakeWhile.symm

/-- What is left does not end in that element. -/
theorem getLast?_rdropWhile_ne {α : Type} [DecidableEq α] (a : α) (l : List α) :
    (l.rdropWhile (· == a)).getLast? ≠ some a := by
  intro hlast
  have hne : l.rdropWhile (· == a) ≠ [] := by
    intro hnil
    rw [hnil] at hlast
    cases hlast
  have heq : (l.rdropWhile (· == a)).getLast hne = a := by
    rw [List.getLast?_eq_some_getLast hne] at hlast
    exact Option.some.inj hlast
  have hkept : ¬ ((l.rdropWhile (· == a)).getLast hne == a) = true :=
    List.rdropWhile_last_not (· == a) l hne
  rw [heq, beq_self_eq_true] at hkept
  exact hkept rfl

namespace Utf8

/-- Only NUL has a byte zero at its end. -/
theorem getLast?_encodeChar_ne_zero {c : Char} (hc : c ≠ '\x00') :
    (encodeChar c).getLast? ≠ some 0 := by
  have hpos : c.toNat ≠ 0 := by
    intro h
    apply hc
    rw [← Char.ofNat_toNat c, h]
  -- A byte that is zero has a number that is zero, and no last byte of a character has.
  have hbyte : ∀ n : Nat, n < 256 → n ≠ 0 → UInt8.ofNat n ≠ 0 := by
    intro n hn hn0 h
    have hzero := congrArg UInt8.toNat h
    rw [UInt8.toNat_ofNat_of_lt' hn] at hzero
    exact hn0 hzero
  have hbound : c.toNat < 0x110000 := by
    have hvalid : c.toNat.isValidChar := c.valid
    rcases hvalid with h | h <;> omega
  -- The last byte is the number of the character below 0x80, and 0x80 at least above.
  unfold encodeChar encodeNumber
  repeat' split
  all_goals
    simp only [List.getLast?_cons_cons, List.getLast?_singleton, ne_eq, Option.some.injEq]
    exact hbyte _ (by omega) (by omega)

/-- Text that does not end in NUL has no byte zero at its end. -/
theorem getLast?_ofString_ne_zero {text : String}
    (h : text.toList.getLast? ≠ some '\x00') : (ofString text).getLast? ≠ some 0 := by
  rw [ofString, encode]
  rcases List.eq_nil_or_concat text.toList with hnil | ⟨front, last, hlast⟩
  · rw [hnil]
    simp
  · rw [List.concat_eq_append] at hlast
    rw [hlast] at h ⊢
    have hne : last ≠ '\x00' := by simpa using h
    rw [List.flatMap_append, List.flatMap_singleton]
    obtain ⟨first, tail, hbytes, -⟩ := front_encodeChar last []
    have hbyte := getLast?_encodeChar_ne_zero hne
    rw [hbytes] at hbyte ⊢
    rwa [List.getLast?_append_of_ne_nil _ (by simp)]

end Utf8

namespace Password

/-! ### Padding -/

/-- Padding that is added is dropped again. -/
theorem dropPadding_append_zeros (bytes : List UInt8) (n : Nat) :
    dropPadding (bytes ++ List.replicate n 0) = dropPadding bytes := by
  induction n with
  | zero => rw [List.replicate_zero, List.append_nil]
  | succ n ih =>
    rw [List.replicate_succ', ← List.append_assoc]
    show ((bytes ++ List.replicate n 0) ++ [0]).rdropWhile (· == 0) = _
    rw [List.rdropWhile_concat_pos _ _ _ (by rfl)]
    exact ih

/-- What dropping the padding takes away is padding. -/
theorem exists_append_zeros (bytes : List UInt8) :
    ∃ n, bytes = dropPadding bytes ++ List.replicate n 0 :=
  exists_append_replicate 0 bytes

/-- Bytes that do not end in NUL have no padding. -/
theorem dropPadding_eq_self {bytes : List UInt8} (h : bytes.getLast? ≠ some 0) :
    dropPadding bytes = bytes := by
  show bytes.rdropWhile (· == 0) = bytes
  rw [List.rdropWhile_eq_self_iff]
  intro hne hlast
  rw [List.getLast?_eq_some_getLast hne] at h
  exact h (congrArg some (eq_of_beq hlast))

/-! ### Lengths -/

/-- The length of the hidden form of so many bytes: whole blocks, one at least. -/
def hiddenLength (length : Nat) : Nat :=
  16 * max 1 ((length + 15) / 16)

/-- The blocks of some bytes are as long as their hidden form. -/
theorem length_flatMap_bytes_split (bytes : List UInt8) :
    ((Block.split bytes).flatMap Block.bytes).length = hiddenLength bytes.length := by
  rw [Block.length_flatMap_bytes, Block.length_split, hiddenLength]

/-- Any bytes make at least one block. -/
theorem split_ne_nil (bytes : List UInt8) : Block.split bytes ≠ [] := by
  intro h
  have hlength := Block.length_split bytes
  rw [h, List.length_nil] at hlength
  omega

/-- Bytes that fill whole blocks are cut without padding. -/
theorem flatMap_bytes_split_of_whole {hidden : List UInt8} (hne : hidden.length ≠ 0)
    (hwhole : hidden.length % 16 = 0) : (Block.split hidden).flatMap Block.bytes = hidden := by
  have hnone : 16 * (Block.split hidden).length - hidden.length = 0 := by
    rw [Block.length_split]
    omega
  rw [Block.flatMap_bytes_split, hnone, List.replicate_zero, List.append_nil]

/-- Blocks that spell some bytes and padding, and are as many as the bytes need, are the blocks
that the bytes are cut into. -/
theorem split_eq_of_spells {bytes : List UInt8} {blocks : List Block} {n : Nat}
    (hspells : blocks.flatMap Block.bytes = bytes ++ List.replicate n 0)
    (hcount : blocks.length = (Block.split bytes).length) : Block.split bytes = blocks := by
  have hne : blocks ≠ [] := by
    intro hnil
    apply split_ne_nil bytes
    rw [← List.length_eq_zero_iff, ← hcount, hnil]
    rfl
  -- Equally many blocks hold equally many bytes, so the padding is the same.
  have hpadding : 16 * (Block.split bytes).length - bytes.length = n := by
    have hlength := congrArg List.length hspells
    rw [Block.length_flatMap_bytes, List.length_append, List.length_replicate] at hlength
    omega
  rw [← Block.split_flatMap_bytes (split_ne_nil bytes), Block.flatMap_bytes_split, hpadding,
    ← hspells, Block.split_flatMap_bytes hne]

variable [Digest]

/-- A hidden password fills whole blocks, one at least. -/
theorem length_hide (password secret : List UInt8) (authenticator : Block) :
    (hide password secret authenticator).length = hiddenLength password.length := by
  rw [hide, Block.length_flatMap_bytes, length_hideBlocks, Block.length_split, hiddenLength]

/-! ### Revealing after hiding -/

/-- The bytes behind a hidden form, padding included. -/
def revealedBytes (hidden secret : List UInt8) (authenticator : Block) : List UInt8 :=
  (revealBlocks secret authenticator (Block.split hidden)).flatMap Block.bytes

/-- The bytes behind a hidden password are the password and its padding. -/
theorem revealedBytes_hide (password secret : List UInt8) (authenticator : Block) :
    revealedBytes (hide password secret authenticator) secret authenticator
      = (Block.split password).flatMap Block.bytes := by
  have hne : hideBlocks secret authenticator (Block.split password) ≠ [] := by
    intro h
    apply split_ne_nil password
    rw [← List.length_eq_zero_iff, ← length_hideBlocks secret authenticator, h]
    rfl
  rw [revealedBytes, hide, Block.split_flatMap_bytes hne, revealBlocks_hideBlocks]

/-- A hidden form that does not fill whole blocks is refused with its length. -/
theorem reveal_of_not_whole {hidden secret : List UInt8} {authenticator : Block}
    (h : hidden.length = 0 ∨ hidden.length % 16 ≠ 0) :
    reveal hidden secret authenticator = .error (.invalidPasswordLength hidden.length) := by
  rw [reveal, if_pos h]

/-- Of a hidden form that fills whole blocks, only the text can fail. -/
theorem reveal_of_whole {hidden secret : List UInt8} {authenticator : Block}
    (hne : hidden.length ≠ 0) (hwhole : hidden.length % 16 = 0) :
    reveal hidden secret authenticator
      = (Utf8.toString? (dropPadding (revealedBytes hidden secret authenticator))).elim
          (.error .invalidUtf8) .ok := by
  have h : ¬ (hidden.length = 0 ∨ hidden.length % 16 ≠ 0) := by omega
  rw [reveal, if_neg h, revealedBytes]
  dsimp only
  cases Utf8.toString? _ with
  | some password => rfl
  | none => rfl

/-- Which hidden forms reveal a text. -/
theorem reveal_eq_ok_iff {hidden secret : List UInt8} {authenticator : Block} {text : String} :
    reveal hidden secret authenticator = .ok text ↔
      hidden.length ≠ 0 ∧ hidden.length % 16 = 0 ∧
        dropPadding (revealedBytes hidden secret authenticator) = Utf8.ofString text := by
  by_cases h : hidden.length = 0 ∨ hidden.length % 16 ≠ 0
  · rw [reveal_of_not_whole h]
    constructor
    · intro h'
      cases h'
    · rintro ⟨hne, hwhole, -⟩
      exact (h.elim hne (fun h => h hwhole)).elim
  · rw [not_or, not_not] at h
    rw [reveal_of_whole h.1 h.2]
    constructor
    · intro h'
      cases hpassword : Utf8.toString?
          (dropPadding (revealedBytes hidden secret authenticator)) with
      | some password =>
        rw [hpassword] at h'
        cases h'
        exact ⟨h.1, h.2, Utf8.toString?_eq_some_iff.1 hpassword⟩
      | none =>
        rw [hpassword] at h'
        cases h'
    · rintro ⟨-, -, htext⟩
      rw [htext, Utf8.toString?_ofString]
      rfl

/-- Revealing a hidden password gives the text that the password spells without its
padding. -/
theorem reveal_hide {password secret : List UInt8} {authenticator : Block} {text : String}
    (h : dropPadding password = Utf8.ofString text) :
    reveal (hide password secret authenticator) secret authenticator = .ok text := by
  rw [reveal_eq_ok_iff, revealedBytes_hide, Block.flatMap_bytes_split,
    dropPadding_append_zeros, length_hide, hiddenLength]
  exact ⟨by omega, by omega, h⟩

/-! ### Hiding after revealing -/

/-- Revealing keeps the number of blocks, because hiding does. -/
theorem length_revealBlocks (secret : List UInt8) (previous : Block) (blocks : List Block) :
    (revealBlocks secret previous blocks).length = blocks.length := by
  rw [← length_hideBlocks secret previous, hideBlocks_revealBlocks]

section
variable {hidden secret : List UInt8} {authenticator : Block} {text : String}

/-- The bytes behind a hidden form are as many as its own. -/
theorem length_revealedBytes (hne : hidden.length ≠ 0) (hwhole : hidden.length % 16 = 0) :
    (revealedBytes hidden secret authenticator).length = hidden.length := by
  rw [revealedBytes, Block.length_flatMap_bytes, length_revealBlocks,
    ← Block.length_flatMap_bytes, flatMap_bytes_split_of_whole hne hwhole]

/-- A revealed text needs no more blocks than the hidden form that it comes from. -/
theorem hiddenLength_le_of_reveal (h : reveal hidden secret authenticator = .ok text) :
    hiddenLength (Utf8.ofString text).length ≤ hidden.length := by
  obtain ⟨hne, hwhole, htext⟩ := reveal_eq_ok_iff.1 h
  obtain ⟨n, hn⟩ := exists_append_zeros (revealedBytes hidden secret authenticator)
  have hlength := congrArg List.length hn
  rw [length_revealedBytes hne hwhole, htext, List.length_append] at hlength
  rw [hiddenLength]
  omega

/-- Hiding a revealed text gives the hidden form that it comes from exactly if that form has
no more blocks than the text needs. -/
theorem hide_eq_iff_of_reveal (h : reveal hidden secret authenticator = .ok text) :
    hide (Utf8.ofString text) secret authenticator = hidden ↔
      hidden.length = hiddenLength (Utf8.ofString text).length := by
  obtain ⟨hne, hwhole, htext⟩ := reveal_eq_ok_iff.1 h
  constructor
  · intro heq
    rw [← length_hide _ secret authenticator, heq]
  · intro hlength
    -- The revealed blocks spell the text and its padding.
    have hsplit : Block.split (Utf8.ofString text)
        = revealBlocks secret authenticator (Block.split hidden) := by
      obtain ⟨n, hn⟩ := exists_append_zeros (revealedBytes hidden secret authenticator)
      rw [htext] at hn
      refine split_eq_of_spells hn ?_
      have hblocks := length_flatMap_bytes_split (Utf8.ofString text)
      rw [Block.length_flatMap_bytes] at hblocks
      rw [length_revealBlocks, Block.length_split hidden]
      omega
    rw [hide, hsplit, hideBlocks_revealBlocks, flatMap_bytes_split_of_whole hne hwhole]

end

end Password

end Radius
