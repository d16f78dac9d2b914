import Radius.Digest.Md5
import Radius.Proofs.Codec.Values

/-!
# `Radius.Proofs.Codec.Normalization`: what normalizing a value does to the wire

A codec looks at the kind of a value in two places that do not know of each other: where it
normalizes the value, and where it writes the value. Neither takes all that the other takes. Text is
normalized to an address, but not written as one; octets that spell no text are written where text
is expected, but not normalized. What keeps the two together is the content of a value, the bytes
that it has by itself (`Value.content`):

* `Stock.encode_eq_of_content`: a codec writes the content of a value and nothing else of it. So two
  values of the same content are written alike.
* `Stock.normalize_self` and `Stock.content_of_normalize`: a value of the codec's own kind is kept
  as it is when it is normalized, and every value that could be written keeps its content.
* `decode_userPassword_hide`: a password comes back without the NUL characters at its end.

`normalize_keeps_wire` puts these together.
-/

set_option autoImplicit false

namespace Radius

/-! ### NUL characters at the end of a text -/

/-- The text without the NUL characters at its end. -/
def Text.withoutNul (text : String) : String :=
  String.ofList (text.toList.rdropWhile (· == '\x00'))

/-- Nothing but NUL characters is taken away. -/
theorem Text.exists_append_nul (text : String) :
    ∃ n, text.toList = (withoutNul text).toList ++ List.replicate n '\x00' := by
  rw [withoutNul, String.toList_ofList]
  exact exists_append_replicate '\x00' text.toList

/-- None of them is left at the end. -/
theorem Text.getLast?_withoutNul (text : String) :
    (withoutNul text).toList.getLast? ≠ some '\x00' := by
  rw [withoutNul, String.toList_ofList]
  exact getLast?_rdropWhile_ne '\x00' text.toList

/-- So many NUL characters are so many bytes zero. -/
theorem Utf8.encode_replicate_nul (n : Nat) :
    encode (List.replicate n '\x00') = List.replicate n 0 := by
  induction n with
  | zero => rfl
  | succ n ih =>
    show encodeChar '\x00' ++ encode (List.replicate n '\x00') = _
    rw [ih]
    rfl

/-- The padding that is dropped from the bytes of a text is its NUL characters. No other character
has a byte zero at its end, so nothing more is dropped. -/
theorem Password.dropPadding_ofString (text : String) :
    dropPadding (Utf8.ofString text) = Utf8.ofString (Text.withoutNul text) := by
  obtain ⟨n, htext⟩ := Text.exists_append_nul text
  have hbytes : Utf8.ofString text
      = Utf8.ofString (Text.withoutNul text) ++ List.replicate n 0 := by
    rw [← Utf8.encode_replicate_nul, Utf8.ofString, htext]
    exact List.flatMap_append
  rw [hbytes, dropPadding_append_zeros]
  exact dropPadding_eq_self (Utf8.getLast?_ofString_ne_zero (Text.getLast?_withoutNul text))

namespace Codec

section
variable {value stored other : Value} {bytes : List UInt8}

/-! ### What is left of a value -/

/-- Bytes that spell text are the content of that text. -/
theorem content_of_textOfBytes (h : textOfBytes bytes = .ok stored) : stored.content = bytes := by
  unfold textOfBytes at h
  split at h
  next text htext =>
    cases h
    exact (Utf8.toString?_eq_some_iff.1 htext).symm
  next => cases h

/-- Normalized text has the bytes that were given, as text or as octets. -/
theorem content_of_normalizeText (h : normalizeText value = .ok stored) :
    stored.content = value.content := by
  cases value with
  | text => cases h; rfl
  | bytes => exact content_of_textOfBytes h
  | integer => cases h
  | address => cases h

/-- Normalized octets are the bytes that were given, as octets or as text. -/
theorem content_of_normalizeOctets (h : normalizeOctets value = .ok stored) :
    stored.content = value.content := by
  cases value with
  | text => cases h; rfl
  | bytes => cases h; rfl
  | integer => cases h
  | address => cases h

variable [Digest] {codec : Codec} {p : Packet} {normalize : Value → Except CodecError Value}

/-- A value of the codec's own kind is kept as it is. -/
theorem Stock.normalize_self (hcodec : codec.Stock) (hnormalize : codec.normalize? = some normalize)
    (hkind : value.kind = codec.kind) : normalize value = .ok value := by
  cases hcodec with
  | text =>
    cases hnormalize
    cases value with
    | text => rfl
    | _ => cases hkind
  | octets =>
    cases hnormalize
    cases value with
    | bytes => rfl
    | _ => cases hkind
  | integer =>
    cases hnormalize
    cases value with
    | integer => rfl
    | _ => cases hkind
  | address =>
    cases hnormalize
    cases value with
    | address => rfl
    | _ => cases hkind
  | userPassword =>
    cases hnormalize
    cases value with
    | text => rfl
    | _ => cases hkind

/-- A value that could be written keeps its content. A number or an address that was given as text
or as octets does not, but such a value could not have been written. -/
theorem Stock.content_of_normalize (hcodec : codec.Stock)
    (hnormalize : codec.normalize? = some normalize)
    (hstands : value.kind.standsFor codec.kind = true) (h : normalize value = .ok stored) :
    stored.content = value.content := by
  -- The two codecs that take other kinds only when they normalize write none but their own.
  have hkept : value.kind = codec.kind → stored.content = value.content := by
    intro hkind
    rw [hcodec.normalize_self hnormalize hkind] at h
    cases h
    rfl
  cases hcodec with
  | text =>
    cases hnormalize
    exact content_of_normalizeText h
  | octets =>
    cases hnormalize
    exact content_of_normalizeOctets h
  | integer => exact hkept (Value.Kind.eq_of_standsFor hstands (by decide) (by decide))
  | address => exact hkept (Value.Kind.eq_of_standsFor hstands (by decide) (by decide))
  | userPassword =>
    cases hnormalize
    exact content_of_normalizeText h

/-! ### What is written of a value -/

/-- A codec writes the content of a value and nothing else of it, hidden or not. So two values of
the same content are written alike, if both can be written. -/
theorem Stock.encode_eq_of_content (hcodec : codec.Stock)
    (hstands : value.kind.standsFor codec.kind = true)
    (hother : other.kind.standsFor codec.kind = true) (hcontent : other.content = value.content) :
    codec.encode p other = codec.encode p value := by
  by_cases hpassword : codec = .userPassword
  · subst hpassword
    by_cases hsecret : p.secret = []
    · -- Without a secret neither of the two is written.
      simp only [Codec.userPassword, hsecret, List.isEmpty_nil, if_true]
    · rw [encode_userPassword_of_standsFor hsecret hstands,
        encode_userPassword_of_standsFor hsecret hother, hcontent]
  · rw [hcodec.encode_of_standsFor hpassword hstands, hcodec.encode_of_standsFor hpassword hother,
      hcontent]

/-- Only a value of a kind that stands for the codec's is written. -/
theorem Stock.standsFor_of_encode (hcodec : codec.Stock) (h : codec.encode p value = .ok bytes) :
    value.kind.standsFor codec.kind = true := by
  rcases hcodec.encode_cases p value with ⟨-, h'⟩ | ⟨-, -, h'⟩ | ⟨-, hstands, -⟩
  · rw [h'] at h; cases h
  · rw [h'] at h; cases h
  · exact hstands

/-- A value of the codec's own kind is written, unless it is a password and there is no secret. -/
theorem Stock.exists_encode_of_kind (hcodec : codec.Stock) (hkind : value.kind = codec.kind)
    (hkeyed : ¬ codec.LacksSecret p) : ∃ bytes, codec.encode p value = .ok bytes := by
  cases h : codec.encode p value with
  | ok bytes => exact ⟨bytes, rfl⟩
  | error cause => exact absurd (hcodec.eq_missingSecret_of_encode hkind h).1 hkeyed

/-- A password comes back without the NUL characters at its end. They cannot be told from the
padding. -/
theorem decode_userPassword_hide {text : String}
    (h : userPassword.encode p (.text text) = .ok bytes) :
    userPassword.decode p bytes = .ok (.text (Text.withoutNul text)) := by
  obtain ⟨hsecret, rfl⟩ := encode_userPassword_text h
  simp only [Codec.userPassword, hsecret, Bool.false_eq_true, if_false,
    Password.reveal_hide (Password.dropPadding_ofString text)]
  rfl

/-- Normalizing does no harm on the wire. Every codec of the library normalizes. What it stores for
a value has the codec's kind, is stored again as it is, and is written in the same bytes as the
value itself if the value can be written. What is stored can always be written, given a secret to
hide passwords with, and it is what is read back in the same packet. A password is read back without
the NUL characters at its end. -/
theorem normalize_keeps_wire (hcodec : codec.Stock) :
    ∃ normalize, codec.normalize? = some normalize ∧
      ∀ (p : Packet) value stored, normalize value = .ok stored →
        stored.kind = codec.kind ∧
        normalize stored = .ok stored ∧
        (∀ bytes, codec.encode p value = .ok bytes → codec.encode p stored = .ok bytes) ∧
        ((codec = .userPassword → p.secret ≠ []) →
          ∃ bytes, codec.encode p stored = .ok bytes ∧
            (codec ≠ .userPassword → codec.decode p bytes = .ok stored) ∧
            (codec = .userPassword → ∃ text, stored = .text text ∧
              codec.decode p bytes = .ok (.text (Text.withoutNul text)))) := by
  obtain ⟨normalize, hnormalize, hkinds⟩ := hcodec.exists_normalize
  refine ⟨normalize, hnormalize, ?_⟩
  intro p value stored hstored
  have hkind : stored.kind = codec.kind := hkinds value stored hstored
  refine ⟨hkind, hcodec.normalize_self hnormalize hkind, ?_, ?_⟩
  · intro bytes hbytes
    -- The value could be written, so its content is what is stored.
    have hstands := hcodec.standsFor_of_encode hbytes
    have hcontent := hcodec.content_of_normalize hnormalize hstands hstored
    have hself : stored.kind.standsFor codec.kind = true := by
      rw [hkind]
      exact Value.Kind.standsFor_self codec.kind
    rw [hcodec.encode_eq_of_content hstands hself hcontent]
    exact hbytes
  · intro hsecret
    have hkeyed : ¬ codec.LacksSecret p := fun hlacks => hsecret hlacks.1 hlacks.2
    obtain ⟨bytes, hbytes⟩ := hcodec.exists_encode_of_kind hkind hkeyed
    refine ⟨bytes, hbytes, ?_, ?_⟩
    · intro hne
      exact hcodec.decode_encode hkind (fun hpassword => absurd hpassword hne) hbytes
    · rintro rfl
      cases stored with
      | text text => exact ⟨text, rfl, decode_userPassword_hide hbytes⟩
      | _ => cases hkind

end

/-- A packet with a secret. -/
def keyedPacket : Packet where
  code := .accessRequest
  identifier := 0
  authenticator := .zero
  secret := Utf8.ofString "secret"

/-- A password that was given as octets, with a NUL at its end: it is stored as text, hidden in the
bytes that the octets would be hidden in, and read back without the NUL. -/
theorem normalize_keeps_wire_padded :
    normalizeText (.bytes [0x70, 0x77, 0]) = .ok (.text "pw\x00") ∧
      ∃ bytes, userPassword.encode keyedPacket (.bytes [0x70, 0x77, 0]) = .ok bytes ∧
        userPassword.encode keyedPacket (.text "pw\x00") = .ok bytes ∧
        userPassword.decode keyedPacket bytes = .ok (.text "pw") := by
  have hstored : normalizeText (.bytes [0x70, 0x77, 0]) = .ok (.text "pw\x00") := by
    decide +kernel
  obtain ⟨normalize, hnormalize, hwire⟩ := normalize_keeps_wire .userPassword
  obtain rfl : normalizeText = normalize := Option.some.inj hnormalize
  obtain ⟨-, -, hsame, hback⟩ := hwire keyedPacket _ _ hstored
  obtain ⟨bytes, hbytes, -, hread⟩ := hback (fun _ => by decide +kernel)
  obtain ⟨text, htext, hdecode⟩ := hread rfl
  cases htext
  -- The octets can be hidden as well, and then the two hidden forms are the same.
  obtain ⟨hidden, hhidden⟩ : ∃ hidden,
      userPassword.encode keyedPacket (.bytes [0x70, 0x77, 0]) = .ok hidden := ⟨_, rfl⟩
  have hboth := hsame hidden hhidden
  rw [hbytes] at hboth
  cases hboth
  exact ⟨hstored, bytes, hhidden, hbytes, hdecode⟩

end Codec

end Radius
