import Radius.Digest.Md5
import Radius.Proofs.Password

/-!
# `Radius.Proofs.Password.Inverse`: how far hiding and revealing undo each other

A password is any bytes, a hidden form is any bytes, and the secret may be empty. Then three things
can stand in the way of an inverse, and `Radius.Proofs.Password` has one lemma for each: padding is
dropped, what is left need not spell text, and a hidden form may have more blocks than its text
needs. The two directions:

* `reveal_hide_of_stripped`: a hidden password is revealed as what is left of it without the NUL
  bytes at its end, or refused if that spells no text.
* `reveal_eq_invalidPasswordLength_iff`: which hidden forms are refused for their length. With
  `hide_eq_iff_of_reveal` this is what becomes of any bytes that are revealed and hidden again.

`hide_reveal_inverse` puts these together.
-/

set_option autoImplicit false

namespace Radius.Password

/-- A password and the NUL bytes at its end: `stripped` is what is left without them. -/
structure Strips (password stripped : List UInt8) : Prop where
  padding : ∃ n, password = stripped ++ List.replicate n 0
  bare : stripped.getLast? ≠ some 0

/-- Nothing but padding is dropped, and all of it. -/
theorem strips_dropPadding (password : List UInt8) : Strips password (dropPadding password) where
  padding := exists_append_zeros password
  bare := getLast?_rdropWhile_ne 0 password

/-- Only one thing is left without the padding. -/
theorem Strips.eq_dropPadding {password stripped : List UInt8} (h : Strips password stripped) :
    stripped = dropPadding password := by
  obtain ⟨n, rfl⟩ := h.padding
  rw [dropPadding_append_zeros, dropPadding_eq_self h.bare]

section
variable [Digest] {password stripped hidden secret : List UInt8} {authenticator : Block}

/-- A hidden password is revealed as what is left of it without the NUL bytes at its end, if that
spells text. -/
theorem reveal_hide_of_stripped (h : Strips password stripped) :
    reveal (hide password secret authenticator) secret authenticator
      = (Utf8.toString? stripped).elim (.error .invalidUtf8) .ok := by
  have hlength := length_hide password secret authenticator
  have hne : (hide password secret authenticator).length ≠ 0 := by
    rw [hlength, hiddenLength]
    omega
  have hwhole : (hide password secret authenticator).length % 16 = 0 := by
    rw [hlength, hiddenLength]
    omega
  rw [reveal_of_whole hne hwhole, revealedBytes_hide, Block.flatMap_bytes_split,
    dropPadding_append_zeros, h.eq_dropPadding]

/-- It is revealed as a text exactly if that is what is left. -/
theorem reveal_hide_eq_ok_iff (h : Strips password stripped) {text : String} :
    reveal (hide password secret authenticator) secret authenticator = .ok text ↔
      Utf8.ofString text = stripped := by
  rw [reveal_hide_of_stripped h]
  constructor
  · intro hreveal
    cases htext : Utf8.toString? stripped with
    | some spelled =>
      rw [htext] at hreveal
      cases hreveal
      exact (Utf8.toString?_eq_some_iff.1 htext).symm
    | none =>
      rw [htext] at hreveal
      cases hreveal
  · rintro rfl
    rw [Utf8.toString?_ofString]
    rfl

/-- It is refused exactly if what is left spells no text. -/
theorem reveal_hide_eq_invalidUtf8_iff (h : Strips password stripped) :
    reveal (hide password secret authenticator) secret authenticator = .error .invalidUtf8 ↔
      ¬ ∃ text, Utf8.ofString text = stripped := by
  constructor
  · rintro hrefused ⟨text, htext⟩
    rw [(reveal_hide_eq_ok_iff h).2 htext] at hrefused
    cases hrefused
  · intro hnone
    rw [reveal_hide_of_stripped h]
    cases htext : Utf8.toString? stripped with
    | some text => exact absurd ⟨text, (Utf8.toString?_eq_some_iff.1 htext).symm⟩ hnone
    | none => rfl

/-- A hidden form is refused for its length exactly if it does not fill whole blocks, or is empty.
The length is its own. -/
theorem reveal_eq_invalidPasswordLength_iff {n : Nat} :
    reveal hidden secret authenticator = .error (.invalidPasswordLength n) ↔
      n = hidden.length ∧ (hidden.length = 0 ∨ hidden.length % 16 ≠ 0) := by
  constructor
  · intro h
    by_cases hpartial : hidden.length = 0 ∨ hidden.length % 16 ≠ 0
    · rw [reveal_of_not_whole hpartial] at h
      cases h
      exact ⟨rfl, hpartial⟩
    · -- Whole blocks are revealed, or refused for their text.
      rw [not_or, not_not] at hpartial
      rw [reveal_of_whole hpartial.1 hpartial.2] at h
      cases htext : Utf8.toString? (dropPadding (revealedBytes hidden secret authenticator)) with
      | some text =>
        rw [htext] at h
        cases h
      | none =>
        rw [htext] at h
        cases h
  · rintro ⟨rfl, hpartial⟩
    exact reveal_of_not_whole hpartial

end

/-- Hiding and revealing are inverse up to NUL padding, in both directions, with any secret.

* A hidden password fills whole blocks, one at least.
* It is revealed as the text that the password spells without the NUL bytes at its end. If that
  spells no text, it is refused as such.
* Any bytes are refused for their length exactly if they are empty or do not fill whole blocks. A
  text that they reveal is hidden as the same bytes exactly if they have no more blocks than the
  text needs. -/
theorem hide_reveal_inverse [Digest] (secret : List UInt8) (authenticator : Block) :
    (∀ password,
      (hide password secret authenticator).length = 16 * max 1 ((password.length + 15) / 16) ∧
      ∃ stripped, Strips password stripped ∧
        (∀ text, reveal (hide password secret authenticator) secret authenticator = .ok text ↔
          Utf8.ofString text = stripped) ∧
        (reveal (hide password secret authenticator) secret authenticator = .error .invalidUtf8 ↔
          ¬ ∃ text, Utf8.ofString text = stripped)) ∧
    ∀ hidden,
      (∀ n, reveal hidden secret authenticator = .error (.invalidPasswordLength n) ↔
        n = hidden.length ∧ (hidden.length = 0 ∨ hidden.length % 16 ≠ 0)) ∧
      ∀ text, reveal hidden secret authenticator = .ok text →
        (hide (Utf8.ofString text) secret authenticator = hidden ↔
          hidden.length = 16 * max 1 (((Utf8.ofString text).length + 15) / 16)) := by
  constructor
  · intro password
    have hstrips := strips_dropPadding password
    exact ⟨length_hide password secret authenticator, dropPadding password, hstrips,
      fun _ => reveal_hide_eq_ok_iff hstrips, reveal_hide_eq_invalidUtf8_iff hstrips⟩
  · intro hidden
    exact ⟨fun n => reveal_eq_invalidPasswordLength_iff, fun text => hide_eq_iff_of_reveal⟩

/-- A text of four bytes with so much padding that its hidden form has two blocks. -/
def roomyHidden : List UInt8 :=
  hide (Utf8.ofString "å\x00b" ++ List.replicate 14 0) [] .zero

/-- The text is revealed without the padding, NUL inside it included, and hiding it again gives
another hidden form. -/
theorem hide_reveal_inverse_roomy :
    reveal roomyHidden [] .zero = .ok "å\x00b" ∧
      hide (Utf8.ofString "å\x00b") [] .zero ≠ roomyHidden := by
  obtain ⟨-, hrevealed⟩ := hide_reveal_inverse [] .zero
  have hreveal : reveal roomyHidden [] .zero = .ok "å\x00b" := by decide +kernel
  refine ⟨hreveal, fun hsame => ?_⟩
  have hlength := ((hrevealed roomyHidden).2 _ hreveal).1 hsame
  exact absurd hlength (by decide +kernel)

end Radius.Password
