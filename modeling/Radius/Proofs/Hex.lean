import Radius.Text.Hex
import Radius.Text.Parts
import Radius.Text.Utf8.RoundTrip

/-!
# `Radius.Proofs.Hex`: the texts that spell bytes

A text spells bytes in hexadecimal if it is made of pairs of digits, of either case (`Spells`). The
reader looks at the bytes of the text and not at its characters. A digit is one byte, and a longer
character begins with a byte that is no digit (`exists_first`), so the reader accepts exactly these
texts (`decode_eq_ok_iff`).

The text that bytes are written as is one of them (`decode_encode`). Its characters are digits alone
(`exists_hexDigit_of_mem`). No digit is a blank, and trimming leaves the text alone (`trim_digits`).
-/

set_option autoImplicit false

namespace Radius.Hex

/-! ### Digits -/

/-- A digit is a single byte, and neither a blank nor a hyphen. -/
theorem hexDigit_plain (n : Nat) :
    (Text.hexDigit n).toNat < 0x80 ∧ Text.isBlank (Text.hexDigit n) = false ∧
      Text.hexDigit n ≠ '-' := by
  have hdigits : ∀ d < 16,
      let digit := Char.ofNat (if d < 10 then 48 + d else 87 + d)
      digit.toNat < 0x80 ∧ Text.isBlank digit = false ∧ digit ≠ '-' := by decide
  exact hdigits (n % 16) (Nat.mod_lt n (by decide))

/-- The text of some bytes holds nothing but digits. -/
theorem exists_hexDigit_of_mem {bytes : List UInt8} {c : Char} (h : c ∈ digits bytes) :
    ∃ n, c = Text.hexDigit n := by
  obtain ⟨byte, -, hdigit⟩ := List.mem_flatMap.1 h
  rcases List.mem_cons.1 hdigit with hhigh | hrest
  · exact ⟨_, hhigh⟩
  · exact ⟨_, List.mem_singleton.1 hrest⟩

/-- A character of one byte is read from the byte. -/
theorem digitValue?_byte {c : Char} (h : c.toNat < 0x80) :
    digitValue? (UInt8.ofNat c.toNat) = Text.hexValue? c := by
  rw [digitValue?, UInt8.toNat_ofNat_of_lt' (show _ < 256 by omega), Char.ofNat_toNat]

/-! ### The texts that spell bytes -/

/-- Pairs of digits of either case, which spell a byte each. -/
inductive Spells : List Char → List UInt8 → Prop
  | nil : Spells [] []
  | cons {high low : Char} {h l : Nat} {text : List Char} {bytes : List UInt8}
    (hhigh : Text.hexValue? high = some h) (hlow : Text.hexValue? low = some l)
    (hrest : Spells text bytes) : Spells (high :: low :: text) (UInt8.ofNat (16 * h + l) :: bytes)

/-- Digits are characters of one byte. -/
theorem toNat_lt_of_hexValue? {c : Char} {n : Nat} (h : Text.hexValue? c = some n) :
    c.toNat < 0x80 := by
  unfold Text.hexValue? at h
  dsimp only at h
  split at h
  next => omega
  split at h
  next => omega
  split at h
  next => omega
  next => cases h

/-- No byte of a longer character is a digit. -/
theorem digitValue?_eq_none {byte : UInt8} (h : 0x80 ≤ byte.toNat) : digitValue? byte = none := by
  have hbyte := byte.toNat_lt
  cases hvalue : digitValue? byte with
  | none => rfl
  | some n =>
    have hsmall := toNat_lt_of_hexValue? hvalue
    rw [Char.ofNat, dif_pos (by omega)] at hsmall
    exact absurd h (Nat.not_le.2 hsmall)

/-- A character is a digit exactly if its first byte is, and then it has no other byte. -/
theorem exists_first (c : Char) :
    ∃ first tail, Utf8.encodeChar c = first :: tail ∧ digitValue? first = Text.hexValue? c ∧
      ∀ n, Text.hexValue? c = some n → tail = [] := by
  by_cases hsmall : c.toNat < 0x80
  · exact ⟨_, _, Utf8.encodeChar_of_lt hsmall, digitValue?_byte hsmall, fun _ _ => rfl⟩
  · obtain ⟨first, tail, hbytes, hfirst⟩ := Utf8.exists_encodeChar_of_le (Nat.not_lt.1 hsmall)
    have hnone : Text.hexValue? c = none := by
      cases hvalue : Text.hexValue? c with
      | none => rfl
      | some n => exact absurd (toNat_lt_of_hexValue? hvalue) hsmall
    refine ⟨first, tail, hbytes, ?_, ?_⟩
    · rw [digitValue?_eq_none hfirst, hnone]
    · intro n hvalue
      rw [hnone] at hvalue
      cases hvalue

/-- No bytes are read where the first byte is no digit. -/
theorem pairs_ne_ok {first : UInt8} {rest bytes : List UInt8} {position : Nat}
    (h : digitValue? first = none) : pairs position (first :: rest) ≠ .ok bytes := by
  intro hread
  cases rest with
  | nil => cases hread
  | cons second rest =>
    rw [pairs, h] at hread
    cases hread

/-- Nor where the second byte is none. -/
theorem pairs_ne_ok_of_second {first second : UInt8} {rest bytes : List UInt8} {position : Nat}
    (h : digitValue? second = none) : pairs position (first :: second :: rest) ≠ .ok bytes := by
  intro hread
  rw [pairs, h] at hread
  cases hfirst : digitValue? first with
  | none =>
    rw [hfirst] at hread
    cases hread
  | some value =>
    rw [hfirst] at hread
    cases hread

/-- Two digits are read as a byte, and the reader goes on behind them. -/
theorem pairs_of_digits {first second : UInt8} {rest bytes : List UInt8} {position h l : Nat}
    (hfirst : digitValue? first = some h) (hsecond : digitValue? second = some l) :
    pairs position (first :: second :: rest) = .ok bytes ↔
      ∃ others, pairs (position + 2) rest = .ok others ∧
        bytes = UInt8.ofNat (16 * h + l) :: others := by
  rw [pairs, hfirst, hsecond]
  dsimp only
  cases pairs (position + 2) rest with
  | error fault =>
    constructor
    · rintro ⟨⟩
    · rintro ⟨_, ⟨⟩, -⟩
  | ok others =>
    constructor
    · rintro ⟨⟩
      exact ⟨others, rfl, rfl⟩
    · rintro ⟨_, ⟨⟩, rfl⟩
      rfl

/-- From any position on, the reader accepts the texts that spell bytes. -/
theorem pairs_encode_iff {bytes : List UInt8} : ∀ (text : List Char) (position : Nat),
    pairs position (Utf8.encode text) = .ok bytes ↔ Spells text bytes
  | [], position => by
    constructor
    · intro h
      cases h
      exact .nil
    · intro h
      cases h
      rfl
  | [c], position => by
    -- A digit has one byte, which is no pair, and what is no digit is refused at its first byte.
    refine iff_of_false ?_ (by rintro ⟨⟩)
    obtain ⟨first, tail, hbytes, hdigit, hsingle⟩ := exists_first c
    rw [Utf8.encode_cons, hbytes]
    cases hvalue : Text.hexValue? c with
    | none => exact pairs_ne_ok (hdigit.trans hvalue)
    | some n =>
      rw [hsingle n hvalue]
      intro hread
      cases hread
  | high :: low :: text, position => by
    obtain ⟨first, tail, hbytes, hdigit, hsingle⟩ := exists_first high
    obtain ⟨second, others, hothers, hsecond, halone⟩ := exists_first low
    -- The two characters are two bytes only if both are digits.
    rw [Utf8.encode_cons, hbytes]
    cases hhigh : Text.hexValue? high with
    | none =>
      refine iff_of_false (pairs_ne_ok (hdigit.trans hhigh)) ?_
      rintro (_ | ⟨hvalue, -, -⟩)
      rw [hhigh] at hvalue
      cases hvalue
    | some h =>
    rw [hsingle h hhigh, Utf8.encode_cons, hothers]
    cases hlow : Text.hexValue? low with
    | none =>
      refine iff_of_false (pairs_ne_ok_of_second (hsecond.trans hlow)) ?_
      rintro (_ | ⟨-, hvalue, -⟩)
      rw [hlow] at hvalue
      cases hvalue
    | some l =>
    rw [halone l hlow]
    refine (pairs_of_digits (hdigit.trans hhigh) (hsecond.trans hlow)).trans ?_
    constructor
    · rintro ⟨others, hread, rfl⟩
      exact .cons hhigh hlow ((pairs_encode_iff text (position + 2)).1 hread)
    · rintro (_ | ⟨hvalue, hother, hrest⟩)
      obtain rfl := Option.some.inj (hhigh.symm.trans hvalue)
      obtain rfl := Option.some.inj (hlow.symm.trans hother)
      exact ⟨_, (pairs_encode_iff text (position + 2)).2 hrest, rfl⟩

/-- A text that spells bytes has two bytes for each of them. -/
theorem length_of_spells {text : List Char} {bytes : List UInt8} (h : Spells text bytes) :
    (Utf8.encode text).length = 2 * bytes.length := by
  induction h with
  | nil => rfl
  | @cons high low h l text bytes hhigh hlow _ ih =>
    rw [Utf8.encode_cons, Utf8.encode_cons, Utf8.encodeChar_of_lt (toNat_lt_of_hexValue? hhigh),
      Utf8.encodeChar_of_lt (toNat_lt_of_hexValue? hlow)]
    simp only [List.cons_append, List.nil_append, List.length_cons, ih]
    omega

/-- A text spells bytes for the reader exactly if it is made of pairs of digits that do. -/
theorem decode_eq_ok_iff {text : String} {bytes : List UInt8} :
    decode text = .ok bytes ↔ Spells text.toList bytes := by
  rw [decode, Utf8.ofString, ← pairs_encode_iff text.toList 0]
  split
  next hodd =>
    constructor
    · intro h
      cases h
    · intro h
      have heven := length_of_spells ((pairs_encode_iff text.toList 0).1 h)
      omega
  next => rfl

/-! ### The text of some bytes -/

/-- The digits of some bytes are pairs that spell them. -/
theorem spells_digits (bytes : List UInt8) : Spells (digits bytes) bytes := by
  induction bytes with
  | nil => exact .nil
  | cons byte bytes ih =>
    have hvalue : 16 * (byte.toNat / 16 % 16) + byte.toNat % 16 = byte.toNat := by
      have hbyte := byte.toNat_lt
      omega
    have hspells := ih.cons (Text.hexValue?_hexDigit (byte.toNat / 16))
      (Text.hexValue?_hexDigit byte.toNat)
    rw [hvalue, UInt8.ofNat_toNat] at hspells
    exact hspells

/-- The text spells the bytes that it was written from. -/
theorem decode_encode (bytes : List UInt8) : decode (encode bytes) = .ok bytes := by
  rw [decode_eq_ok_iff, encode, String.toList_ofList]
  exact spells_digits bytes

/-- There is nothing to trim in it. -/
theorem trim_digits (bytes : List UInt8) : Text.trim (digits bytes) = digits bytes := by
  refine Text.trim_of_no_blank ?_
  intro c hc
  obtain ⟨n, rfl⟩ := exists_hexDigit_of_mem hc
  exact (hexDigit_plain n).2.1

/-- There is nothing to trim from the text of some bytes. -/
theorem trimString_encode (bytes : List UInt8) :
    Text.trimString (encode bytes) = encode bytes := by
  rw [Text.trimString, encode, String.toList_ofList, trim_digits]

end Radius.Hex
