import Radius.Proofs.Address.Network
import Radius.Proofs.Codec.Spelling
import Radius.Proofs.Codec.Values
import Radius.Proofs.Text.Lossy

/-!
# `Radius.Proofs.Codec.Rendering`: values as text, and text as values

To render a value a dictionary asks the codec, then the value, then falls back on what the value
holds. To normalize text a codec reads it in its own way. The two do not know of each other, and
they still belong together, because a value of its codec's own kind is shown by its kind alone:

* `Dictionary.render_of_kind`: the text of such a value is `Value.shown`, whatever the codec.
* `Codec.Stock.normalize_shown`: the codec makes the value of its text again. Octets have to spell
  text for that. If they do not, the codec makes the bytes of the text that they nearly spell
  (`Codec.Stock.normalize_text_octets`).

A number and an address are read between blanks, so their texts must have none themselves
(`Decimal.isBlank_of_mem_digits`, `V4.isBlank_of_mem_written`).
-/

set_option autoImplicit false

namespace Radius

/-- The text of a value by its kind: text as it is, the text that octets nearly spell, the decimal
digits of a number, and the dotted form of an address. -/
def Value.shown : Value → String
  | .text content => content
  | .bytes content => String.ofList (Utf8.decodeLossy content)
  | .integer content => Decimal.text content.toNat
  | .address content => content.text

/-! ### Texts without blanks -/

/-- No digit is a blank. -/
theorem Decimal.isBlank_of_mem_digits {n : Nat} {c : Char} (h : c ∈ digits n) :
    Text.isBlank c = false := by
  obtain ⟨d, hd⟩ := Option.isSome_iff_exists.1 (isSome_digitValue?_of_mem_digits h)
  obtain ⟨hsmall, rfl⟩ := digitValue?_eq_some_iff.1 hd
  have hdigits : ∀ d < 10, Text.isBlank (digit d) = false := by decide
  exact hdigits d hsmall

/-- An address is written without blanks. -/
theorem V4.isBlank_of_mem_written {address : V4} {c : Char} (h : c ∈ address.written) :
    Text.isBlank c = false := by
  rcases Text.mem_joined h with hdot | ⟨piece, hpiece, hdigit⟩
  · rw [List.mem_singleton.1 hdot]
    rfl
  · obtain ⟨byte, -, rfl⟩ := List.mem_map.1 hpiece
    exact Decimal.isBlank_of_mem_digits hdigit

/-! ### From a value to its text and back -/

/-- Octets that spell text are shown as the text. -/
theorem Value.shown_ofString (text : String) : (bytes (Utf8.ofString text)).shown = text := by
  have hlossy := Utf8.decodeLossy_eq_of_decode? (Utf8.decode?_encode text.toList)
  rw [shown, Utf8.ofString, hlossy, String.ofList_toList]

/-- A value of its codec's kind is shown by its kind alone. -/
theorem Dictionary.render_of_kind [Digest] {dictionary : Dictionary} {attr : Attribute}
    (hcodec : (dictionary.codec attr.type).Stock)
    (hkind : attr.value.kind = (dictionary.codec attr.type).kind) :
    dictionary.render attr = attr.value.shown := by
  obtain ⟨type, value⟩ := attr
  unfold render
  dsimp only at hcodec hkind ⊢
  generalize dictionary.codec type = codec at hcodec hkind
  cases hcodec with
  | integer =>
    -- The one codec that renders by itself.
    cases value with
    | integer => rfl
    | _ => cases hkind
  | _ =>
    cases value with
    | integer => cases hkind
    | _ => rfl

namespace Codec

/-- A number is read from its digits. -/
theorem normalizeInteger_shown (number : UInt32) :
    normalizeInteger (.text (Value.integer number).shown) = .ok (.integer number) := by
  have htrim : Text.trim (Decimal.digits number.toNat) = Decimal.digits number.toNat :=
    Text.trim_of_no_blank fun _ => Decimal.isBlank_of_mem_digits
  have hsign : (Decimal.digits number.toNat).head? ≠ some '+' := by
    intro hplus
    have hdigit := Decimal.isSome_digitValue?_of_mem_digits (List.mem_of_mem_head? hplus)
    contradiction
  have hread : readInteger? (Decimal.digits number.toNat) = some number := by
    rw [readInteger?, htrim, Decimal.unsigned?_of_head_ne hsign, Decimal.value?_digits]
    simp [number.toNat_lt, UInt32.size]
  rw [Value.shown, normalizeInteger, Decimal.text, String.toList_ofList, hread]

/-- An address is read from its dotted form. -/
theorem normalizeAddress_shown (address : V4) :
    normalizeAddress (.text (Value.address address).shown) = .ok (.address address) := by
  have htrim : Text.trim address.written = address.written :=
    Text.trim_of_no_blank fun _ => V4.isBlank_of_mem_written
  have hread : V4.read? address.written = some address := V4.read?_eq_some_iff.2 rfl
  rw [Value.shown, normalizeAddress, V4.text, String.toList_ofList, htrim, hread]

section
variable [Digest] {codec : Codec} {value : Value} {normalize : Value → Except CodecError Value}

/-- A value of the codec's kind is made again of the text that it is shown as. Octets have to spell
text. -/
theorem Stock.normalize_shown (hcodec : codec.Stock)
    (hnormalize : codec.normalize? = some normalize) (hkind : value.kind = codec.kind)
    (htext : ∀ bytes, value = .bytes bytes → ∃ text, bytes = Utf8.ofString text) :
    normalize (.text value.shown) = .ok value := by
  -- The kind leaves one constructor of values for each codec.
  cases hcodec with
  | text =>
    cases hnormalize
    cases value with
    | text => rfl
    | _ => cases hkind
  | octets =>
    cases hnormalize
    cases value with
    | bytes content =>
      obtain ⟨text, rfl⟩ := htext content rfl
      rw [Value.shown_ofString]
      rfl
    | _ => cases hkind
  | integer =>
    cases hnormalize
    cases value with
    | integer number => exact normalizeInteger_shown number
    | _ => cases hkind
  | address =>
    cases hnormalize
    cases value with
    | address address => exact normalizeAddress_shown address
    | _ => cases hkind
  | userPassword =>
    cases hnormalize
    cases value with
    | text => rfl
    | _ => cases hkind

/-- Where octets are expected, text is taken as its bytes. -/
theorem Stock.normalize_text_octets (hcodec : codec.Stock)
    (hnormalize : codec.normalize? = some normalize) (hkind : codec.kind = .bytes)
    (text : String) : normalize (.text text) = .ok (.bytes (Utf8.ofString text)) := by
  cases hcodec with
  | octets =>
    cases hnormalize
    rfl
  | _ => cases hkind

end

end Codec

end Radius
