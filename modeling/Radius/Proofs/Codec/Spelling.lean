import Mathlib.Data.List.DropRight
import Mathlib.Data.Nat.Digits.Defs
import Radius.Codec

/-!
# `Radius.Proofs.Codec.Spelling`: the texts that stand for numbers and addresses

Integers and addresses may be given as text. Each has a grammar, which this module states without
the readers, and in both grammars blanks may stand around the text (`Text.Trimmed`):

* an integer is an optional plus sign and one or more decimal digits, with as many zeros in front
  as one likes (`Decimal.SpellsUnsigned`);
* an address is four numbers from 0 to 255 with dots between them, none with a zero in front
  (`V4.DottedDecimal`).

The readers accept exactly these texts: `Text.trimmed_iff`, `Decimal.unsigned?_eq_some_iff` and
`V4.dottedDecimal_iff`. So `Codec.normalize_text` says of every text what the two codecs make of it.
The value of digits is `Nat.ofDigits`, which counts from the last digit, while the reader
accumulates from the first.
-/

set_option autoImplicit false

namespace Radius

/-! ### Blanks -/

namespace Text

/-- What is left of a text without the blanks around it: nothing but blanks stands before and after
`core`, which itself neither begins nor ends with one. -/
structure Trimmed (text core : List Char) : Prop where
  around : ∃ before after, text = before ++ core ++ after ∧
    (∀ c ∈ before, isBlank c = true) ∧ ∀ c ∈ after, isBlank c = true
  first : ∀ c ∈ core.head?, isBlank c = false
  last : ∀ c ∈ core.getLast?, isBlank c = false

variable {text core : List Char}

/-- Trimming drops the blanks around a text that neither begins nor ends with one. -/
theorem Trimmed.trim_eq (h : Trimmed text core) : trim text = core := by
  obtain ⟨⟨before, after, rfl, hbefore, hafter⟩, hfirst, hlast⟩ := h
  have hself := trim_eq_self hfirst hlast
  rw [trim, List.append_assoc, List.dropWhile_append_of_pos hbefore]
  cases core with
  | nil =>
    -- The whole text is blank.
    rw [List.nil_append, List.dropWhile_eq_nil_iff.2 hafter]
    rfl
  | cons c rest =>
    have hc : ¬ isBlank c = true := by simp [hfirst c rfl]
    have hblanks : ∀ b ∈ after.reverse, isBlank b = true := by
      intro b hb
      exact hafter b (List.mem_reverse.mp hb)
    rw [List.cons_append, List.dropWhile_cons_of_neg hc, ← List.cons_append,
      List.reverse_append, List.dropWhile_append_of_pos hblanks]
    rwa [trim, List.dropWhile_cons_of_neg hc] at hself

/-- What trimming leaves stands between blanks and neither begins nor ends with one. -/
theorem trimmed_trim (text : List Char) : Trimmed text (trim text) := by
  have htrim : trim text = (text.dropWhile isBlank).rdropWhile isBlank := rfl
  rw [htrim]
  refine ⟨⟨text.takeWhile isBlank, (text.dropWhile isBlank).rtakeWhile isBlank, ?_, ?_, ?_⟩,
    ?_, ?_⟩
  · rw [List.append_assoc, List.rdropWhile_append_rtakeWhile, List.takeWhile_append_dropWhile]
  · exact fun c hc => List.mem_takeWhile_imp hc
  · exact fun c hc => List.mem_rtakeWhile_imp hc
  · -- The first character is the one that the blanks in front end at.
    intro c hc
    obtain ⟨after, hafter⟩ := List.rdropWhile_prefix isBlank (text.dropWhile isBlank)
    have hhead : (text.dropWhile isBlank).head? = some c := by
      rw [← hafter, List.head?_append, hc]
      rfl
    have hstop := List.head?_dropWhile_not isBlank text
    rwa [hhead] at hstop
  · -- The last one is the one that the blanks at the end start after.
    intro c hc
    have hne : (text.dropWhile isBlank).rdropWhile isBlank ≠ [] := by
      intro hnil
      rw [hnil] at hc
      cases hc
    have hstop := List.rdropWhile_last_not isBlank (text.dropWhile isBlank) hne
    rw [List.getLast?_eq_some_getLast hne] at hc
    rw [Option.some.inj hc] at hstop
    simpa using hstop

/-- Trimming finds what stands between the blanks. -/
theorem trimmed_iff : Trimmed text core ↔ trim text = core :=
  ⟨Trimmed.trim_eq, fun h => h ▸ trimmed_trim text⟩

end Text

/-! ### Digits -/

namespace Decimal

/-- The number that decimal digits spell. The last one counts once, the one before it ten times. -/
def worth (digits : List Char) : Nat :=
  Nat.ofDigits 10 (digits.reverse.map fun c => c.toNat - '0'.toNat)

/-- One or more decimal digits that spell a number. -/
structure Spells (digits : List Char) (n : Nat) : Prop where
  nonempty : digits ≠ []
  decimal : ∀ c ∈ digits, c.isDigit = true
  value : worth digits = n

/-- One or more decimal digits, with or without a plus sign before them. -/
def SpellsUnsigned (text : List Char) (n : Nat) : Prop :=
  ∃ sign digits, text = sign ++ digits ∧ (sign = [] ∨ sign = ['+']) ∧ Spells digits n

variable {text : List Char} {n : Nat}

/-- One more digit at the end makes the number ten times what it was, and adds its own value. -/
theorem worth_concat (digits : List Char) (c : Char) :
    worth (digits ++ [c]) = 10 * worth digits + (c.toNat - '0'.toNat) := by
  simp only [worth, List.reverse_append, List.reverse_singleton, List.singleton_append,
    List.map_cons, Nat.ofDigits_cons]
  omega

/-- The reader's digits are the decimal digits. -/
theorem digitValue?_eq (c : Char) :
    digitValue? c = if c.isDigit then some (c.toNat - '0'.toNat) else none := by
  simp only [digitValue?, Char.isDigit_iff_toNat]
  rfl

/-- The digits that are read from the first on spell the number that is left at the last. -/
theorem valueFrom?_zero_eq_some_iff :
    valueFrom? 0 text = some n ↔ (∀ c ∈ text, c.isDigit = true) ∧ worth text = n := by
  -- By the digits from the last one back, because each counts for the ones before it.
  induction text using List.reverseRecOn generalizing n with
  | nil => simp [valueFrom?, worth]
  | append_singleton front c ih =>
    rw [valueFrom?_append, worth_concat, Option.bind_eq_some_iff]
    simp only [ih, List.forall_mem_append, List.forall_mem_singleton]
    by_cases hc : c.isDigit = true
    · have hlast : ∀ m, valueFrom? m [c] = some (10 * m + (c.toNat - '0'.toNat)) := by
        intro m
        rw [valueFrom?, digitValue?_eq, if_pos hc]
        rfl
      simp only [hlast, Option.some.injEq, hc, and_true]
      constructor
      · rintro ⟨m, ⟨hfront, rfl⟩, hn⟩
        exact ⟨hfront, hn⟩
      · rintro ⟨hfront, hn⟩
        exact ⟨worth front, ⟨hfront, rfl⟩, hn⟩
    · have hlast : ∀ m, valueFrom? m [c] = none := by
        intro m
        rw [valueFrom?, digitValue?_eq, if_neg hc]
      simp [hlast, hc]

/-- A text is read as a number exactly if it is one or more digits that spell the number. -/
theorem value?_eq_some_iff : value? text = some n ↔ Spells text n := by
  cases text with
  | nil =>
    constructor
    · intro h
      cases h
    · intro h
      exact absurd rfl h.nonempty
  | cons c rest =>
    show valueFrom? 0 (c :: rest) = some n ↔ _
    rw [valueFrom?_zero_eq_some_iff]
    exact ⟨fun h => ⟨List.cons_ne_nil _ _, h.1, h.2⟩, fun h => ⟨h.decimal, h.value⟩⟩

/-- Of a text that does not start with a plus sign, the reader takes all for digits. -/
theorem unsigned?_of_head_ne (h : text.head? ≠ some '+') : unsigned? text = value? text := by
  unfold unsigned?
  split
  next rest => exact absurd rfl h
  next => rfl

/-- A text is read as a number exactly if it is digits that spell the number, with or without a plus
sign. -/
theorem unsigned?_eq_some_iff : unsigned? text = some n ↔ SpellsUnsigned text n := by
  constructor
  · intro h
    unfold unsigned? at h
    split at h
    next rest => exact ⟨['+'], rest, rfl, .inr rfl, value?_eq_some_iff.1 h⟩
    next => exact ⟨[], text, rfl, .inl rfl, value?_eq_some_iff.1 h⟩
  · rintro ⟨sign, digits, rfl, rfl | rfl, hdigits⟩
    · have hhead : digits.head? ≠ some '+' := by
        intro hplus
        exact absurd (hdigits.decimal '+' (List.mem_of_mem_head? hplus)) (by decide)
      rw [List.nil_append, unsigned?_of_head_ne hhead]
      exact value?_eq_some_iff.2 hdigits
    · exact value?_eq_some_iff.2 hdigits

end Decimal

/-! ### Addresses -/

namespace V4

/-- A number from 0 to 255 in decimal, without a zero in front. -/
structure Octet (digits : List Char) (byte : UInt8) : Prop where
  spells : Decimal.Spells digits byte.toNat
  canonical : digits.head? = some '0' → digits = ['0']

/-- Four numbers from 0 to 255 with dots between them, none with a zero in front. -/
def DottedDecimal (text : List Char) (address : V4) : Prop :=
  ∃ a b c d, text = a ++ '.' :: b ++ '.' :: c ++ '.' :: d ∧
    Octet a address.a ∧ Octet b address.b ∧ Octet c address.c ∧ Octet d address.d

/-- The decimal digits of a byte are the only octet that spells it. -/
theorem octet_iff {digits : List Char} {byte : UInt8} :
    Octet digits byte ↔ digits = Decimal.digits byte.toNat := by
  constructor
  · intro h
    have hcanonical : digits.head? = some '0' → digits.length = 1 := by
      intro hzero
      rw [h.canonical hzero]
      rfl
    exact (Decimal.digits_of_value? (Decimal.value?_eq_some_iff.2 h.spells) hcanonical).symm
  · rintro rfl
    refine ⟨Decimal.value?_eq_some_iff.1 (Decimal.value?_digits _), fun hzero => ?_⟩
    -- Only the digits of zero start with a zero.
    have hbyte : byte.toNat = 0 := by
      by_contra hne
      exact Decimal.head?_digits_ne_zero hne hzero
    rw [hbyte, Decimal.digits]
    rfl

/-- The dotted decimal form of an address is the text that it renders to. -/
theorem dottedDecimal_iff {text : List Char} {address : V4} :
    DottedDecimal text address ↔ text = address.written := by
  simp only [DottedDecimal, octet_iff]
  constructor
  · rintro ⟨a, b, c, d, rfl, rfl, rfl, rfl, rfl⟩
    simp [written, bytes, Text.joined]
  · rintro rfl
    exact ⟨_, _, _, _, by simp [written, bytes, Text.joined], rfl, rfl, rfl, rfl⟩

end V4

/-! ### What the codecs make of a text -/

namespace Codec

/-- The text is a number in decimal, between blanks. -/
def SpellsInteger (text : String) (n : Nat) : Prop :=
  ∃ core, Text.Trimmed text.toList core ∧ Decimal.SpellsUnsigned core n

/-- The text is what an address renders to, between blanks. -/
def SpellsAddress (text : String) (address : V4) : Prop :=
  ∃ core : String, Text.Trimmed text.toList core.toList ∧
    (Value.address address).rendered? = some core

variable {text : String}

/-- A text is read as a number of thirty-two bits exactly if it spells this number. -/
theorem readInteger?_eq_some_iff {number : UInt32} :
    readInteger? text.toList = some number ↔ SpellsInteger text number.toNat := by
  simp only [SpellsInteger, Text.trimmed_iff, exists_eq_left', ← Decimal.unsigned?_eq_some_iff]
  rw [readInteger?]
  cases Decimal.unsigned? (Text.trim text.toList) with
  | none => simp
  | some n =>
    simp only [Option.some.injEq]
    constructor
    · intro h
      split at h
      next hsmall =>
        cases h
        exact (UInt32.toNat_ofNat_of_lt' hsmall).symm
      next => cases h
    · rintro rfl
      rw [if_pos number.toNat_lt, UInt32.ofNat_toNat]

/-- It is read as none exactly if it spells no number that small. -/
theorem readInteger?_eq_none_iff :
    readInteger? text.toList = none ↔ ¬ ∃ n, n ≤ 4294967295 ∧ SpellsInteger text n := by
  constructor
  · rintro hnone ⟨n, hsmall, hspells⟩
    have hn : (UInt32.ofNat n).toNat = n :=
      UInt32.toNat_ofNat_of_lt' (show n < 4294967296 by omega)
    rw [← hn, ← readInteger?_eq_some_iff, hnone] at hspells
    cases hspells
  · intro hno
    cases hread : readInteger? text.toList with
    | none => rfl
    | some number =>
      have hsmall : number.toNat < 4294967296 := number.toNat_lt
      exact absurd ⟨number.toNat, by omega, readInteger?_eq_some_iff.1 hread⟩ hno

/-- A text is read as an address exactly if it spells this address. -/
theorem read?_trim_eq_some_iff {address : V4} :
    V4.read? (Text.trim text.toList) = some address ↔ SpellsAddress text address := by
  simp only [SpellsAddress, Text.trimmed_iff, V4.read?_eq_some_iff, Value.rendered?,
    Option.some.injEq, exists_eq_right', V4.text, String.toList_ofList]

/-- It is read as none exactly if it spells none. -/
theorem read?_trim_eq_none_iff :
    V4.read? (Text.trim text.toList) = none ↔ ¬ ∃ address, SpellsAddress text address := by
  simp only [← read?_trim_eq_some_iff, Option.eq_none_iff_forall_ne_some, ne_eq, not_exists]

/-- What the codecs of integers and addresses make of a text, whatever the text.

* The codec of integers makes the number that the text spells in decimal between blanks, with or
  without a plus sign and with any zeros in front. It refuses the text, and hands it back with its
  blanks, exactly if it spells no number of thirty-two bits.
* The codec of addresses makes the address that renders to what the text has between its blanks. It
  refuses any other text, and hands it back with its blanks.
* What an address renders to is its dotted decimal form, and nothing else has this form. -/
theorem normalize_text (text : String) :
    (Codec.integer.normalize? = some normalizeInteger ∧
      (∀ number, normalizeInteger (.text text) = .ok (.integer number) ↔
        SpellsInteger text number.toNat) ∧
      (normalizeInteger (.text text) = .error (.invalidInteger text) ↔
        ¬ ∃ n, n ≤ 4294967295 ∧ SpellsInteger text n)) ∧
    (Codec.address.normalize? = some normalizeAddress ∧
      (∀ address, normalizeAddress (.text text) = .ok (.address address) ↔
        SpellsAddress text address) ∧
      (normalizeAddress (.text text) = .error (.invalidAddress text) ↔
        ¬ ∃ address, SpellsAddress text address)) ∧
    ∀ address core, (Value.address address).rendered? = some core ↔
      V4.DottedDecimal core.toList address := by
  refine ⟨⟨rfl, ?_, ?_⟩, ⟨rfl, ?_, ?_⟩, ?_⟩
  · intro number
    rw [← readInteger?_eq_some_iff, normalizeInteger]
    cases readInteger? text.toList with
    | none => simp
    | some read => simp
  · rw [← readInteger?_eq_none_iff, normalizeInteger]
    cases readInteger? text.toList with
    | none => simp
    | some read => simp
  · intro address
    rw [← read?_trim_eq_some_iff, normalizeAddress]
    cases V4.read? (Text.trim text.toList) with
    | none => simp
    | some read => simp
  · rw [← read?_trim_eq_none_iff, normalizeAddress]
    cases V4.read? (Text.trim text.toList) with
    | none => simp
    | some read => simp
  · intro address core
    rw [V4.dottedDecimal_iff, Value.rendered?, Option.some.injEq, V4.text, String.ext_iff,
      String.toList_ofList, eq_comm]

/-- Blanks, a sign and zeros in front of a number make no difference. -/
example : normalizeInteger (.text "\t+0042 ") = .ok (.integer 42) := by decide +kernel

end Codec

end Radius
