import Radius.Proofs.Codec

/-!
# `Radius.Proofs.Codec.Values`: which values the codecs make, and which they write

A codec of the library makes values of one kind only, whether it reads them
(`Stock.kind_of_decode`) or normalizes them (`Stock.exists_normalize`). It writes values of more
kinds than that, because text and octets stand for each other (`Value.Kind.standsFor`).

* `Stock.encode_cases`: all that can come of writing a value. It is refused for a missing secret or
  for its kind, or it is written. Where the kind is right only the secret can be missing
  (`Stock.eq_missingSecret_of_encode`).
* `Stock.length_of_encode`: how many bytes a value is written as. Every value but a hidden password
  is written as the bytes that it has by itself (`Value.content`).
-/

set_option autoImplicit false

namespace Radius

namespace Value

/-- The bytes that a value has by itself. -/
def content : Value → List UInt8
  | .text content => Utf8.ofString content
  | .bytes content => content
  | .integer content => bigEndian 4 content.toNat
  | .address content => content.bytes

/-- The number of bytes that a value has by itself. -/
def size : Value → Nat
  | .text content => (Utf8.ofString content).length
  | .bytes content => content.length
  | .integer _ => 4
  | .address _ => 4

/-- A number and an address have four bytes, whatever they are. -/
theorem length_content (value : Value) : value.content.length = value.size := by
  cases value with
  | text => rfl
  | bytes => rfl
  | integer content => exact length_bigEndian 4 content.toNat
  | address content => exact V4.length_bytes content

/-- A value of the first kind is written where one of the second is expected. Text and octets
stand for each other. -/
def Kind.standsFor : Kind → Kind → Bool
  | .text, .text | .bytes, .text | .text, .bytes | .bytes, .bytes => true
  | .integer, .integer | .address, .address => true
  | _, _ => false

/-- Every kind stands for itself. -/
theorem Kind.standsFor_self (kind : Kind) : kind.standsFor kind = true := by
  cases kind <;> rfl

/-- Nothing else stands for a number or an address. -/
theorem Kind.eq_of_standsFor {kind other : Kind} (h : kind.standsFor other = true)
    (htext : other ≠ .text) (hbytes : other ≠ .bytes) : kind = other := by
  cases other with
  | text => exact absurd rfl htext
  | bytes => exact absurd rfl hbytes
  | integer =>
    cases kind with
    | integer => rfl
    | _ => cases h
  | address =>
    cases kind with
    | address => rfl
    | _ => cases h

end Value

namespace Codec

variable {value stored : Value} {bytes : List UInt8} {cause : CodecError}

/-! ### The values that a codec makes -/

/-- Bytes that spell text are read as text. -/
theorem kind_of_textOfBytes (h : textOfBytes bytes = .ok value) : value.kind = .text := by
  unfold textOfBytes at h
  split at h
  next => cases h; rfl
  next => cases h

/-- Bytes that spell an address are read as an address. -/
theorem kind_of_addressOfBytes (h : addressOfBytes bytes = .ok value) :
    value.kind = .address := by
  unfold addressOfBytes at h
  split at h
  next => cases h; rfl
  next => cases h

/-- Normalized text is text. -/
theorem kind_of_normalizeText (h : normalizeText value = .ok stored) : stored.kind = .text := by
  cases value with
  | text => cases h; rfl
  | bytes => exact kind_of_textOfBytes h
  | integer => cases h
  | address => cases h

/-- Normalized octets are octets. -/
theorem kind_of_normalizeOctets (h : normalizeOctets value = .ok stored) :
    stored.kind = .bytes := by
  cases value with
  | text => cases h; rfl
  | bytes => cases h; rfl
  | integer => cases h
  | address => cases h

/-- A normalized number is a number. -/
theorem kind_of_normalizeInteger (h : normalizeInteger value = .ok stored) :
    stored.kind = .integer := by
  cases value with
  | text content =>
    simp only [normalizeInteger] at h
    split at h
    next => cases h; rfl
    next => cases h
  | integer => cases h; rfl
  | bytes => cases h
  | address => cases h

/-- A normalized address is an address. -/
theorem kind_of_normalizeAddress (h : normalizeAddress value = .ok stored) :
    stored.kind = .address := by
  cases value with
  | text content =>
    simp only [normalizeAddress] at h
    split at h
    next => cases h; rfl
    next => cases h
  | bytes => exact kind_of_addressOfBytes h
  | address => cases h; rfl
  | integer => cases h

variable [Digest] {codec : Codec} {p : Packet}

/-- Every value that is read has the kind of its codec. -/
theorem Stock.kind_of_decode (hcodec : codec.Stock) (h : codec.decode p bytes = .ok value) :
    value.kind = codec.kind := by
  cases hcodec with
  | text => exact kind_of_textOfBytes h
  | octets => cases h; rfl
  | integer =>
    simp only [Codec.integer] at h
    split at h
    next => cases h; rfl
    next => cases h
  | address => exact kind_of_addressOfBytes h
  | userPassword =>
    simp only [Codec.userPassword] at h
    split at h
    next => cases h
    next =>
      cases hreveal : Password.reveal bytes p.secret p.authenticator with
      | error cause => rw [hreveal] at h; cases h
      | ok password => rw [hreveal] at h; cases h; rfl

/-- Every codec of the library normalizes, to values of its own kind. -/
theorem Stock.exists_normalize (hcodec : codec.Stock) :
    ∃ normalize, codec.normalize? = some normalize ∧
      ∀ value stored, normalize value = .ok stored → stored.kind = codec.kind := by
  cases hcodec with
  | text => exact ⟨_, rfl, fun _ _ => kind_of_normalizeText⟩
  | octets => exact ⟨_, rfl, fun _ _ => kind_of_normalizeOctets⟩
  | integer => exact ⟨_, rfl, fun _ _ => kind_of_normalizeInteger⟩
  | address => exact ⟨_, rfl, fun _ _ => kind_of_normalizeAddress⟩
  | userPassword => exact ⟨_, rfl, fun _ _ => kind_of_normalizeText⟩

/-! ### The values that a codec writes -/

/-- A password is to be written, and there is no secret to hide it with. -/
def LacksSecret (codec : Codec) (p : Packet) : Prop :=
  codec = .userPassword ∧ p.secret = []

/-- A codec that hides nothing writes exactly the values whose kind stands for its own, as the bytes
that they have by themselves. -/
theorem Stock.encode_cases_of_ne (hcodec : codec.Stock) (hne : codec ≠ .userPassword) :
    (value.kind.standsFor codec.kind = false ∧
      codec.encode p value = .error (unexpected codec.kind value)) ∨
    (value.kind.standsFor codec.kind = true ∧ codec.encode p value = .ok value.content) := by
  cases hcodec with
  | text =>
    cases value with
    | text => exact .inr ⟨rfl, rfl⟩
    | bytes => exact .inr ⟨rfl, rfl⟩
    | integer => exact .inl ⟨rfl, rfl⟩
    | address => exact .inl ⟨rfl, rfl⟩
  | octets =>
    cases value with
    | text => exact .inr ⟨rfl, rfl⟩
    | bytes => exact .inr ⟨rfl, rfl⟩
    | integer => exact .inl ⟨rfl, rfl⟩
    | address => exact .inl ⟨rfl, rfl⟩
  | integer =>
    cases value with
    | integer => exact .inr ⟨rfl, rfl⟩
    | _ => exact .inl ⟨rfl, rfl⟩
  | address =>
    cases value with
    | address => exact .inr ⟨rfl, rfl⟩
    | _ => exact .inl ⟨rfl, rfl⟩
  | userPassword => exact absurd rfl hne

/-- With a secret, a password is written exactly if it is text or octets: hidden. -/
theorem encode_userPassword_cases (hsecret : p.secret ≠ []) :
    (value.kind.standsFor .text = false ∧
      userPassword.encode p value = .error (unexpected .text value)) ∨
    (value.kind.standsFor .text = true ∧
      userPassword.encode p value
        = .ok (Password.hide value.content p.secret p.authenticator)) := by
  have hkeyed : ¬ p.secret.isEmpty = true := by simpa using hsecret
  cases value with
  | text => exact .inr ⟨rfl, if_neg hkeyed⟩
  | bytes => exact .inr ⟨rfl, if_neg hkeyed⟩
  | integer => exact .inl ⟨rfl, if_neg hkeyed⟩
  | address => exact .inl ⟨rfl, if_neg hkeyed⟩

/-- A value that a codec writes without hiding it is written as its content. -/
theorem Stock.encode_of_standsFor (hcodec : codec.Stock) (hne : codec ≠ .userPassword)
    (hstands : value.kind.standsFor codec.kind = true) :
    codec.encode p value = .ok value.content := by
  rcases hcodec.encode_cases_of_ne hne with ⟨hfalse, -⟩ | ⟨-, h⟩
  · rw [hstands] at hfalse
    cases hfalse
  · exact h

/-- A password is written as its content, hidden. -/
theorem encode_userPassword_of_standsFor (hsecret : p.secret ≠ [])
    (hstands : value.kind.standsFor .text = true) :
    userPassword.encode p value
      = .ok (Password.hide value.content p.secret p.authenticator) := by
  rcases encode_userPassword_cases hsecret with ⟨hfalse, -⟩ | ⟨-, h⟩
  · rw [hstands] at hfalse
    cases hfalse
  · exact h

/-- All that can come of writing a value. A missing secret is noticed before the kind. -/
theorem Stock.encode_cases (hcodec : codec.Stock) (p : Packet) (value : Value) :
    (codec.LacksSecret p ∧ codec.encode p value = .error .missingSecret) ∨
    (¬ codec.LacksSecret p ∧ value.kind.standsFor codec.kind = false ∧
      codec.encode p value = .error (unexpected codec.kind value)) ∨
    (¬ codec.LacksSecret p ∧ value.kind.standsFor codec.kind = true ∧
      ∃ bytes, codec.encode p value = .ok bytes ∧
        (codec ≠ .userPassword → bytes.length = value.size) ∧
        (codec = .userPassword → bytes.length = Password.hiddenLength value.size)) := by
  by_cases hpassword : codec = .userPassword
  · subst hpassword
    -- The codec of hidden passwords asks for the secret before it looks at the value.
    by_cases hsecret : p.secret = []
    · refine .inl ⟨⟨rfl, hsecret⟩, ?_⟩
      simp only [Codec.userPassword, hsecret, List.isEmpty_nil, if_true]
    · have hkeyed : ¬ Codec.userPassword.LacksSecret p := fun h => hsecret h.2
      have hlength := Password.length_hide value.content p.secret p.authenticator
      rw [value.length_content] at hlength
      rcases encode_userPassword_cases hsecret with ⟨hkind, h⟩ | ⟨hkind, h⟩
      · exact .inr (.inl ⟨hkeyed, hkind, h⟩)
      · exact .inr (.inr ⟨hkeyed, hkind, _, h, fun hne => absurd rfl hne, fun _ => hlength⟩)
  · have hplain : ¬ codec.LacksSecret p := fun h => hpassword h.1
    rcases hcodec.encode_cases_of_ne hpassword with ⟨hkind, h⟩ | ⟨hkind, h⟩
    · exact .inr (.inl ⟨hplain, hkind, h⟩)
    · exact .inr (.inr ⟨hplain, hkind, _, h, fun _ => value.length_content,
        fun heq => absurd heq hpassword⟩)

/-- How many bytes a value is written as. -/
theorem Stock.length_of_encode (hcodec : codec.Stock) (h : codec.encode p value = .ok bytes) :
    (codec ≠ .userPassword → bytes.length = value.size) ∧
      (codec = .userPassword → bytes.length = Password.hiddenLength value.size) := by
  rcases hcodec.encode_cases p value with
    ⟨-, h'⟩ | ⟨-, -, h'⟩ | ⟨-, -, written, h', hlength⟩
  · rw [h'] at h; cases h
  · rw [h'] at h; cases h
  · rw [h'] at h; cases h
    exact hlength

/-- A value of the codec's own kind is refused for a missing secret only. -/
theorem Stock.eq_missingSecret_of_encode (hcodec : codec.Stock) (hkind : value.kind = codec.kind)
    (h : codec.encode p value = .error cause) : codec.LacksSecret p ∧ cause = .missingSecret := by
  rcases hcodec.encode_cases p value with
    ⟨hlacks, h'⟩ | ⟨-, hstands, -⟩ | ⟨-, -, written, h', -⟩
  · rw [h'] at h; cases h
    exact ⟨hlacks, rfl⟩
  · rw [hkind, Value.Kind.standsFor_self] at hstands
    cases hstands
  · rw [h'] at h; cases h

end Codec

end Radius
