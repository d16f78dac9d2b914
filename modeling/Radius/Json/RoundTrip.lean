import Radius.Json.Text

/-!
# `Radius.Json.RoundTrip`: written strings are read back

Between its quotes a written string is read back character by character, up to the closing
quote and no further (`stringTail_written`). `Leaves` says of any reader's result which value
it holds and what is left of the text.
-/

set_option autoImplicit false

namespace Radius.Json

open Text

/-- A part was read: its value, and what is left. -/
def Leaves {α : Type} {text : List Char} (result : Except Fault (α × Tail text)) (value : α)
    (rest : List Char) : Prop :=
  ∃ tail : Tail text, result = .ok (value, tail) ∧ tail.1 = rest

/-- An escape and the characters after it. -/
theorem stringTail_of_escaped {c : Char} {text inner rest cs : List Char}
    (hfirst : Leaves (escaped text) c inner) (hothers : Leaves (stringTail inner) cs rest) :
    Leaves (stringTail ('\\' :: text)) (c :: cs) rest := by
  obtain ⟨tail, hescaped, rfl⟩ := hfirst
  obtain ⟨after, htail, rfl⟩ := hothers
  rw [stringTail, hescaped]
  simp only
  rw [htail]
  exact ⟨_, rfl, rfl⟩

/-- A character that stands for itself and the characters after it. -/
theorem stringTail_cons {c : Char} {text rest cs : List Char} (hquote : c ≠ '"')
    (hescape : c ≠ '\\') (hprintable : 32 ≤ c.toNat) (hothers : Leaves (stringTail text) cs rest) :
    Leaves (stringTail (c :: text)) (c :: cs) rest := by
  obtain ⟨after, htail, rfl⟩ := hothers
  rw [stringTail, if_neg (by omega), htail]
  · exact ⟨_, rfl, rfl⟩
  · exact hquote
  · exact hescape

/-- The four digits of a control character. -/
theorem fourDigits_control {n : Nat} (hsmall : n < 32) (rest : List Char) :
    Leaves (fourDigits ('0' :: '0' :: Text.hexDigit (n / 16) :: Text.hexDigit n :: rest)) n
      rest := by
  have hnumber : Text.hexNumber? ['0', '0', Text.hexDigit (n / 16), Text.hexDigit n] = some n := by
    have hzero : Text.hexValue? '0' = some 0 := by decide
    simp only [Text.hexNumber?, List.mapM_cons, List.mapM_nil, hzero, Text.hexValue?_hexDigit]
    simp
    omega
  rw [fourDigits, hnumber]
  exact ⟨_, rfl, rfl⟩

/-- Whatever form a character is written in, it is read back before the characters after
it. -/
theorem stringTail_escape (c : Char) {text rest cs : List Char}
    (hothers : Leaves (stringTail text) cs rest) :
    Leaves (stringTail (escape c ++ text)) (c :: cs) rest := by
  have hshort : ∀ d e : Char, Leaves (escaped (d :: text)) e text → c = e →
      Leaves (stringTail (['\\', d] ++ text)) (c :: cs) rest := by
    intro d e hfirst hc
    subst hc
    exact stringTail_of_escaped hfirst hothers
  have hnumber : ∀ n, c.toNat = n → c = Char.ofNat n := by
    rintro n rfl
    exact (Char.ofNat_toNat c).symm
  -- The type of what is read depends on the text, so the written form becomes a variable
  -- before its cases are told apart.
  generalize hwritten : escape c = written
  unfold escape at hwritten
  split at hwritten
  next h => subst hwritten; exact hshort '"' _ ⟨_, rfl, rfl⟩ h
  split at hwritten
  next h => subst hwritten; exact hshort '\\' _ ⟨_, rfl, rfl⟩ h
  split at hwritten
  next h => subst hwritten; exact hshort 'b' _ ⟨_, rfl, rfl⟩ (hnumber 8 h)
  split at hwritten
  next h => subst hwritten; exact hshort 't' _ ⟨_, rfl, rfl⟩ h
  split at hwritten
  next h => subst hwritten; exact hshort 'n' _ ⟨_, rfl, rfl⟩ h
  split at hwritten
  next h => subst hwritten; exact hshort 'f' _ ⟨_, rfl, rfl⟩ (hnumber 12 h)
  split at hwritten
  next h => subst hwritten; exact hshort 'r' _ ⟨_, rfl, rfl⟩ h
  split at hwritten
  next h =>
    subst hwritten
    obtain ⟨tail, hdigits, hleft⟩ := fourDigits_control h text
    have hfirst : Leaves (escaped ('u' :: '0' :: '0' :: Text.hexDigit (c.toNat / 16)
        :: Text.hexDigit c.toNat :: text)) c text := by
      have hlow : isLowSurrogate c.toNat = false := by simp [isLowSurrogate]; omega
      have hhigh : isHighSurrogate c.toNat = false := by simp [isHighSurrogate]; omega
      unfold escaped
      simp only [hdigits, hlow, hhigh]
      exact ⟨_, by rw [Char.ofNat_toNat]; rfl, hleft⟩
    exact stringTail_of_escaped hfirst hothers
  next =>
    subst hwritten
    exact stringTail_cons ‹_› ‹_› (by omega) hothers

/-- The written characters of a string are read back up to the closing quote. -/
theorem stringTail_written (text rest : List Char) :
    Leaves (stringTail (text.flatMap escape ++ '"' :: rest)) text rest := by
  induction text with
  | nil =>
    rw [List.flatMap_nil, List.nil_append, stringTail]
    exact ⟨_, rfl, rfl⟩
  | cons c text ih =>
    rw [List.flatMap_cons, List.append_assoc]
    exact stringTail_escape c ih

end Radius.Json
