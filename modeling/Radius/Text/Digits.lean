/-!
# `Radius.Text.Digits`: numbers in digits

Numbers are written in decimal or in hexadecimal, without leading zeros.

In decimal, `value?` reads a nonempty run of digits, leading zeros allowed, and `unsigned?`
allows a plus sign before them. Reading what was written gives the number back
(`value?_digits`), and digits without a leading zero are the written form of what they spell
(`digits_of_value?`).

Hexadecimal digits are written in lowercase and read in either case.
-/

set_option autoImplicit false

namespace Radius

/-! ### Hexadecimal digits -/

namespace Text

/-- The digit for a number below sixteen. -/
def hexDigit (n : Nat) : Char :=
  let d := n % 16
  Char.ofNat (if d < 10 then 48 + d else 87 + d)

/-- The value of a digit of either case. -/
def hexValue? (c : Char) : Option Nat :=
  let n := c.toNat
  if 48 ≤ n ∧ n ≤ 57 then some (n - 48)
  else if 65 ≤ n ∧ n ≤ 70 then some (n - 55)
  else if 97 ≤ n ∧ n ≤ 102 then some (n - 87)
  else none

/-- The digits of a number, without leading zeros. -/
def hexDigits (n : Nat) : List Char :=
  if n < 16 then [hexDigit n] else hexDigits (n / 16) ++ [hexDigit n]
termination_by n
decreasing_by omega

/-- The number that some digits spell. -/
def hexNumber? (text : List Char) : Option Nat :=
  (text.mapM hexValue?).map fun values => values.foldl (fun acc value => 16 * acc + value) 0

/-- A digit reads back as its value. -/
theorem hexValue?_hexDigit (n : Nat) : hexValue? (hexDigit n) = some (n % 16) := by
  have hdigits : ∀ d < 16,
      hexValue? (Char.ofNat (if d < 10 then 48 + d else 87 + d)) = some d := by decide
  exact hdigits (n % 16) (Nat.mod_lt n (by decide))

end Text

/-! ### Decimal numbers -/

namespace Decimal

/-- The digit for a number below ten. -/
def digit (n : Nat) : Char :=
  Char.ofNat (48 + n % 10)

/-- The value of a digit. -/
def digitValue? (c : Char) : Option Nat :=
  if 48 ≤ c.toNat ∧ c.toNat ≤ 57 then some (c.toNat - 48) else none

/-- The decimal digits of a number, without leading zeros. -/
def digits (n : Nat) : List Char :=
  if n < 10 then [digit n] else digits (n / 10) ++ [digit n]
termination_by n
decreasing_by omega

/-- The decimal text of a number. -/
def text (n : Nat) : String :=
  String.ofList (digits n)

/-- Digits read after a number has been read already. -/
def valueFrom? : Nat → List Char → Option Nat
  | acc, [] => some acc
  | acc, c :: rest =>
    match digitValue? c with
    | some d => valueFrom? (10 * acc + d) rest
    | none => none

/-- The number that a nonempty run of digits spells. -/
def value? : List Char → Option Nat
  | [] => none
  | c :: rest => valueFrom? 0 (c :: rest)

/-- The number that a run of digits spells, with or without a plus sign before it. -/
def unsigned? : List Char → Option Nat
  | '+' :: rest => value? rest
  | text => value? text

/-- A digit reads back as its value. -/
theorem digitValue?_digit (n : Nat) : digitValue? (digit n) = some (n % 10) := by
  have hsmall : n % 10 < 10 := Nat.mod_lt n (by decide)
  rw [digit]
  generalize n % 10 = d at hsmall
  match d, hsmall with
  | 0, _ | 1, _ | 2, _ | 3, _ | 4, _ | 5, _ | 6, _ | 7, _ | 8, _ | 9, _ => decide

/-- Digits are read on from what the digits before them spell. -/
theorem valueFrom?_append (acc : Nat) (front back : List Char) :
    valueFrom? acc (front ++ back) = (valueFrom? acc front).bind (valueFrom? · back) := by
  induction front generalizing acc with
  | nil => rfl
  | cons c front ih =>
    cases hdigit : digitValue? c with
    | none => simp [valueFrom?, hdigit]
    | some d => simp [valueFrom?, hdigit, ih]

/-- A number below ten is written as one digit. -/
theorem text_of_lt {n : Nat} (h : n < 10) : text n = String.ofList [digit n] := by
  rw [text, digits, if_pos h]

/-- Every number has a digit. -/
theorem digits_ne_nil (n : Nat) : digits n ≠ [] := by
  rw [digits]
  split <;> simp

/-- The digits of a number spell it, last digit by last digit. -/
theorem valueFrom?_digits (n : Nat) : valueFrom? 0 (digits n) = some n := by
  induction n using Nat.strongRecOn with
  | ind n ih =>
    rw [digits]
    split
    next hsmall =>
      simp [valueFrom?, digitValue?_digit, Nat.mod_eq_of_lt hsmall]
    next hlarge =>
      rw [valueFrom?_append, ih (n / 10) (by omega)]
      simp only [Option.bind_some, valueFrom?, digitValue?_digit, Option.some.injEq]
      omega

/-- Reading what was written gives the number back. -/
theorem value?_digits (n : Nat) : value? (digits n) = some n := by
  cases hdigits : digits n with
  | nil => exact absurd hdigits (digits_ne_nil n)
  | cons c rest =>
    rw [value?, ← hdigits]
    exact valueFrom?_digits n

/-- Different numbers have different texts. -/
theorem text_injective : Function.Injective text := by
  intro m n h
  have hdigits : digits m = digits n := String.ofList_inj.1 h
  have hvalue := value?_digits m
  rw [hdigits, value?_digits] at hvalue
  exact (Option.some.inj hvalue).symm

/-- Only the digit of a value has it. -/
theorem digitValue?_eq_some_iff {c : Char} {d : Nat} :
    digitValue? c = some d ↔ d < 10 ∧ digit d = c := by
  constructor
  · intro h
    simp only [digitValue?, Option.ite_none_right_eq_some, Option.some.injEq] at h
    obtain ⟨hrange, rfl⟩ := h
    have hnumber : 48 + (c.toNat - 48) % 10 = c.toNat := by omega
    exact ⟨by omega, by rw [digit, hnumber, Char.ofNat_toNat]⟩
  · rintro ⟨hsmall, rfl⟩
    rw [digitValue?_digit, Nat.mod_eq_of_lt hsmall]

/-- Numbers are written with digits only. -/
theorem isSome_digitValue?_of_mem_digits {n : Nat} {c : Char} (h : c ∈ digits n) :
    (digitValue? c).isSome := by
  induction n using Nat.strongRecOn with
  | ind n ih =>
    rw [digits] at h
    split at h
    next => simp_all [digitValue?_digit]
    next hlarge =>
      rw [List.mem_append, List.mem_singleton] at h
      rcases h with h | rfl
      · exact ih (n / 10) (by omega) h
      · simp [digitValue?_digit]

/-- Only zero is written with a zero in front. -/
theorem head?_digits_ne_zero {n : Nat} (h : n ≠ 0) : (digits n).head? ≠ some '0' := by
  induction n using Nat.strongRecOn with
  | ind n ih =>
    rw [digits]
    split
    next hsmall =>
      intro hzero
      rw [List.head?_cons, Option.some.injEq] at hzero
      have hvalue := digitValue?_digit n
      rw [hzero, Nat.mod_eq_of_lt hsmall] at hvalue
      exact h (Option.some.inj hvalue).symm
    next hlarge =>
      have hfront := ih (n / 10) (by omega) (by omega)
      cases hdigits : digits (n / 10) with
      | nil => exact absurd hdigits (digits_ne_nil _)
      | cons c rest => rwa [hdigits] at hfront

/-- Digits without a leading zero are the written form of the number that they spell. -/
theorem digits_of_value? {text : List Char} {n : Nat} (h : value? text = some n)
    (hcanonical : text.head? = some '0' → text.length = 1) : digits n = text := by
  -- Digits are read from the front and written from the back: the induction is on the last one.
  suffices hreversed : ∀ (reversed : List Char) (n : Nat), reversed ≠ [] →
      valueFrom? 0 reversed.reverse = some n →
      (reversed.reverse.head? = some '0' → reversed.length = 1) → digits n = reversed.reverse by
    have hnonempty : text ≠ [] := by
      rintro rfl
      cases h
    have hspelled : valueFrom? 0 text = some n := by
      cases text with
      | nil => exact absurd rfl hnonempty
      | cons => exact h
    have hlast := hreversed text.reverse n (by simpa using hnonempty) (by simpa using hspelled)
      (by simpa using hcanonical)
    rwa [List.reverse_reverse] at hlast
  intro reversed
  induction reversed with
  | nil => intro n hnonempty; exact absurd rfl hnonempty
  | cons c rest ih =>
    intro n _ hspelled hcanonical
    rw [List.reverse_cons, valueFrom?_append] at hspelled
    obtain ⟨m, hm, hlast⟩ := Option.bind_eq_some_iff.1 hspelled
    cases hvalue : digitValue? c with
    | none => simp [valueFrom?, hvalue] at hlast
    | some d =>
      simp only [valueFrom?, hvalue, Option.some.injEq] at hlast
      obtain ⟨hsmall, rfl⟩ := digitValue?_eq_some_iff.1 hvalue
      subst hlast
      cases rest with
      | nil =>
        cases hm
        rw [digits, if_pos (by omega)]
        simp
      | cons next others =>
        have hfrontCanonical : (next :: others).reverse.head? ≠ some '0' := by
          intro hzero
          have hlength := hcanonical (by simpa using hzero)
          simp at hlength
        have hfront := ih m (by simp) hm (fun hzero => absurd hzero hfrontCanonical)
        have hpositive : m ≠ 0 := by
          rintro rfl
          rw [← hfront] at hfrontCanonical
          exact hfrontCanonical (by rw [digits]; rfl)
        have hquotient : (10 * m + d) / 10 = m := by omega
        have hsame : digit (10 * m + d) = digit d := by
          have hlow : (10 * m + d) % 10 = d % 10 := by omega
          rw [digit, hlow, digit]
        rw [digits, if_neg (by omega), hquotient, hfront, hsame]
        exact List.reverse_cons.symm

end Decimal

end Radius
