import Radius.Error

/-!
# `Radius.Proofs.Error`: what the wording of a fault tells

A wording is a fixed text in which numbers, kinds or a text of the sender are filled in. No two
causes begin alike: the first sixteen bytes are fixed, and those of one form of cause alone
(`PacketError.form_eq_of_message_eq`). What is filled in can be read off the rest. A number ends
where its digits end (`leadingNumber_repr_append`), and a text of the sender is always the last
part.

So whoever sees the wording of what a reader refuses knows the cause
(`PacketError.OfReading.eq_of_message_eq`). This does not hold of all causes: what a dictionary
refuses for its value is worded with the name of the attribute in the middle, and a name may hold
anything.
-/

set_option autoImplicit false

namespace Radius

/-! ### Parts of a text -/

/-- The first bytes of a text. -/
def firstBytes (n : Nat) (text : String) : List UInt8 :=
  text.toByteArray.data.toList.take n

/-- What follows after so many bytes makes no difference. -/
theorem firstBytes_append {n : Nat} {text : String} (rest : String) (h : n ≤ text.utf8ByteSize) :
    firstBytes n (text ++ rest) = firstBytes n text := by
  have hlong : n ≤ text.toByteArray.data.toList.length := h
  rw [firstBytes, firstBytes, String.toByteArray_append, ByteArray.data_append, Array.toList_append,
    List.take_append_of_le_length hlong]

/-- Texts that differ only after so many bytes begin alike. -/
theorem firstBytes_append_congr {n : Nat} {text : String} (h : n ≤ text.utf8ByteSize)
    (rest other : String) : firstBytes n (text ++ rest) = firstBytes n (text ++ other) := by
  rw [firstBytes_append rest h, firstBytes_append other h]

/-- The number that a text begins with. -/
def leadingNumber (text : String) : Nat :=
  Nat.ofDigitChars 10 (text.toList.takeWhile Char.isDigit) 0

/-- A number ends where its digits end. -/
theorem leadingNumber_repr_append (n : Nat) {rest : String}
    (h : rest.toList.head?.any Char.isDigit = false) : leadingNumber (n.repr ++ rest) = n := by
  have hdigits : ∀ c ∈ Nat.toDigits 10 n, c.isDigit = true :=
    fun _ => Nat.isDigit_of_mem_toDigits (by decide) (by decide)
  have hrest : rest.toList.takeWhile Char.isDigit = [] := by
    cases hlist : rest.toList with
    | nil => rfl
    | cons c others =>
      rw [hlist] at h
      have hc : c.isDigit = false := by simpa using h
      simp [hc]
  rw [leadingNumber, String.toList_append, Nat.toList_repr,
    List.takeWhile_append_of_pos hdigits, hrest, List.append_nil, Nat.ofDigitChars_ten_toDigits]

section
variable {m n : Nat} {before after : String}

/-- The number at the end of a text can be told from the text. -/
theorem eq_of_append_repr (h : before ++ m.repr = before ++ n.repr) : m = n := by
  rw [String.append_right_inj] at h
  have hread : ∀ k : Nat, leadingNumber k.repr = k := by
    intro k
    simpa using @leadingNumber_repr_append k "" rfl
  rw [← hread m, h, hread]

/-- So can a number with a fixed text after it. -/
theorem eq_of_append_repr_append (h : before ++ m.repr ++ after = before ++ n.repr ++ after) :
    m = n :=
  eq_of_append_repr ((String.append_left_inj after).1 h)

end

/-- A kind can be told from its name, whatever follows. -/
theorem Value.Kind.eq_of_name_append_eq {a b : Kind} {s t : String}
    (h : a.name ++ s = b.name ++ t) : a = b := by
  have hname : ∀ kind : Kind, 1 ≤ kind.name.utf8ByteSize := by
    intro kind
    cases kind <;> decide
  -- The four names have different initials.
  have hinitial : firstBytes 1 a.name = firstBytes 1 b.name := by
    rw [← firstBytes_append s (hname a), ← firstBytes_append t (hname b), h]
  revert hinitial
  cases a <;> cases b <;> decide

/-! ### How messages begin -/

/-- The cause with nothing filled in. -/
def CodecError.form : CodecError → CodecError
  | .invalidLength .. => .invalidLength 0 0
  | .unexpectedValue .. => .unexpectedValue .text .text
  | .invalidUtf8 => .invalidUtf8
  | .invalidAddress _ => .invalidAddress ""
  | .invalidInteger _ => .invalidInteger ""
  | .invalidPasswordLength _ => .invalidPasswordLength 0
  | .missingSecret => .missingSecret

/-- The cause with nothing filled in. -/
def DictionaryError.form : DictionaryError → DictionaryError
  | .invalidName _ => .invalidName ""
  | .invalidValue .. => .invalidValue "" .invalidUtf8

/-- The cause with nothing filled in. -/
def PacketError.form : PacketError → PacketError
  | .tooShort _ => .tooShort 0
  | .invalidLength _ => .invalidLength 0
  | .recordTooShort _ => .recordTooShort 0
  | .invalidAttributeLength _ => .invalidAttributeLength 0
  | .codec cause => .codec cause.form
  | .attributeTooLong .. => .attributeTooLong 0 0
  | .packetTooLong _ => .packetTooLong 0
  | .unknownCode _ => .unknownCode 0
  | .entropyUnavailable => .entropyUnavailable
  | .dictionary cause => .dictionary cause.form

/-- All forms of a codec's refusal. -/
def CodecError.forms : List CodecError := [
  .invalidLength 0 0, .unexpectedValue .text .text, .invalidUtf8, .invalidAddress "",
  .invalidInteger "", .invalidPasswordLength 0, .missingSecret]

/-- All forms of a packet's fault. -/
def PacketError.forms : List PacketError :=
  [.tooShort 0, .invalidLength 0, .recordTooShort 0, .invalidAttributeLength 0,
    .attributeTooLong 0 0, .packetTooLong 0, .unknownCode 0, .entropyUnavailable,
    .dictionary (.invalidName ""), .dictionary (.invalidValue "" .invalidUtf8)]
  ++ CodecError.forms.map .codec

/-- Every refusal of a codec has one of the forms. -/
theorem CodecError.form_mem_forms (cause : CodecError) : cause.form ∈ forms := by
  cases cause <;> simp [form, forms]

/-- Every fault of a packet has one of the forms. -/
theorem PacketError.form_mem_forms (cause : PacketError) : cause.form ∈ forms := by
  cases cause with
  | codec cause => exact List.mem_append_right _ (List.mem_map_of_mem cause.form_mem_forms)
  | dictionary cause => cases cause <;> simp [form, DictionaryError.form, forms]
  | _ => simp [form, forms]

/-- What a codec's refusal is filled in with comes after sixteen bytes. -/
theorem CodecError.firstBytes_message_form (cause : CodecError) :
    firstBytes 16 cause.form.message = firstBytes 16 cause.message := by
  unfold form message
  cases cause with
  | invalidUtf8 => rfl
  | missingSecret => rfl
  | _ =>
    simp only [toString, String.append_assoc]
    exact firstBytes_append_congr (by decide) _ _

/-- So does what a dictionary's refusal is filled in with. -/
theorem DictionaryError.firstBytes_message_form (cause : DictionaryError) :
    firstBytes 16 cause.form.message = firstBytes 16 cause.message := by
  unfold form message
  cases cause with
  | _ =>
    simp only [toString, String.append_assoc]
    exact firstBytes_append_congr (by decide) _ _

/-- So does what a packet's fault is filled in with. -/
theorem PacketError.firstBytes_message_form (cause : PacketError) :
    firstBytes 16 cause.form.message = firstBytes 16 cause.message := by
  unfold form message
  cases cause with
  | codec cause => exact cause.firstBytes_message_form
  | dictionary cause => exact cause.firstBytes_message_form
  | entropyUnavailable => rfl
  | _ =>
    simp only [toString, String.append_assoc]
    exact firstBytes_append_congr (by decide) _ _

/-- Faults of the same wording have the same form. -/
theorem PacketError.form_eq_of_message_eq {a b : PacketError} (h : a.message = b.message) :
    a.form = b.form := by
  -- Bytes are compared here, as the characters of a text have to be decoded first.
  have hdistinct : ∀ form ∈ forms, ∀ other ∈ forms,
      firstBytes 16 form.message = firstBytes 16 other.message → form = other := by
    decide +kernel
  apply hdistinct _ a.form_mem_forms _ b.form_mem_forms
  rw [firstBytes_message_form, firstBytes_message_form, h]

/-! ### What messages tell -/

/-- A codec's refusal can be told from its wording. -/
theorem CodecError.message_injective : Function.Injective message := by
  intro a b h
  have hform : a.form = b.form := by
    have hcodec : (PacketError.codec a).form = (PacketError.codec b).form :=
      PacketError.form_eq_of_message_eq h
    exact PacketError.codec.inj hcodec
  unfold message at h
  -- Refusals of two forms are out, and those of one form differ in what is filled in.
  cases a with
  | invalidLength expected actual =>
    cases b with
    | invalidLength expected' actual' =>
      simp only [toString, String.append_assoc, String.append_right_inj] at h
      have hexpected : expected = expected' := by
        have hnumber := congrArg leadingNumber h
        rwa [leadingNumber_repr_append _ (by simp), leadingNumber_repr_append _ (by simp)]
          at hnumber
      subst hexpected
      rw [String.append_right_inj] at h
      exact congrArg (invalidLength expected) (eq_of_append_repr h)
    | _ => cases hform
  | unexpectedValue expected actual =>
    cases b with
    | unexpectedValue expected' actual' =>
      simp only [toString, String.append_assoc, String.append_right_inj] at h
      obtain rfl := Value.Kind.eq_of_name_append_eq h
      simp only [String.append_right_inj] at h
      exact congrArg (unexpectedValue expected)
        (Value.Kind.eq_of_name_append_eq (congrArg (· ++ "") h))
    | _ => cases hform
  | invalidUtf8 =>
    cases b with
    | invalidUtf8 => rfl
    | _ => cases hform
  | invalidAddress text =>
    cases b with
    | invalidAddress text' => exact congrArg invalidAddress ((String.append_right_inj _).1 h)
    | _ => cases hform
  | invalidInteger text =>
    cases b with
    | invalidInteger text' => exact congrArg invalidInteger ((String.append_right_inj _).1 h)
    | _ => cases hform
  | invalidPasswordLength length =>
    cases b with
    | invalidPasswordLength length' =>
      exact congrArg invalidPasswordLength (eq_of_append_repr_append h)
    | _ => cases hform
  | missingSecret =>
    cases b with
    | missingSecret => rfl
    | _ => cases hform

/-- What a reader can refuse a datagram for: its length, the length that it declares, a record
that is cut off or has a length that no record can have, and what a codec refuses. -/
inductive PacketError.OfReading : PacketError → Prop
  | tooShort (length : Nat) : OfReading (.tooShort length)
  | invalidLength (length : Nat) : OfReading (.invalidLength length)
  | recordTooShort (remaining : Nat) : OfReading (.recordTooShort remaining)
  | invalidAttributeLength (length : UInt8) : OfReading (.invalidAttributeLength length)
  | codec (cause : CodecError) : OfReading (.codec cause)

/-- What a reader refuses a datagram for can be told from its wording, among all faults. -/
theorem PacketError.OfReading.eq_of_message_eq {a b : PacketError} (ha : a.OfReading)
    (h : a.message = b.message) : a = b := by
  have hform := form_eq_of_message_eq h
  unfold message at h
  cases ha with
  | tooShort length =>
    cases b with
    | tooShort length' => exact congrArg PacketError.tooShort (eq_of_append_repr_append h)
    | _ => cases hform
  | invalidLength length =>
    cases b with
    | invalidLength length' => exact congrArg PacketError.invalidLength (eq_of_append_repr h)
    | _ => cases hform
  | recordTooShort remaining =>
    cases b with
    | recordTooShort remaining' =>
      exact congrArg PacketError.recordTooShort (eq_of_append_repr_append h)
    | _ => cases hform
  | invalidAttributeLength length =>
    cases b with
    | invalidAttributeLength length' =>
      have hlength : length.toNat = length'.toNat := eq_of_append_repr h
      rw [UInt8.toNat_inj.1 hlength]
    | _ => cases hform
  | codec cause =>
    cases b with
    | codec cause' => exact congrArg PacketError.codec (CodecError.message_injective h)
    | _ => cases hform

end Radius
