import Radius.Proofs.Dictionary
import Radius.Proofs.Password

/-!
# `Radius.Proofs.Codec`: what the codecs of the library keep

Four of the five codecs lose nothing in either direction, and look at nothing but the value.
The codec of hidden passwords sees the secret and the authenticator of its packet, and nothing
else of it (`Stock.decode_congr`, `Stock.encode_congr`). The round trips:

* `Stock.decode_encode`: a value of the codec's kind is read back from its bytes. A password
  must not end in NUL, because that would be taken for padding.
* `Stock.exists_encode_of_decode`: a value that was read can be written again, in no more bytes
  than it was read from. They are the same bytes exactly if these are canonical, which only a
  hidden password can fail to be: by more padding than its text needs.
-/

set_option autoImplicit false

namespace Radius

/-- Two packets key their hidden passwords alike. -/
def Packet.SameKey (p q : Packet) : Prop :=
  p.secret = q.secret ∧ p.authenticator = q.authenticator

variable [Digest]

/-- The bytes of a value are as many as the codec would write for it. Only a hidden password can
have more: it is canonical if it has the length that the password behind it needs. -/
def Codec.Canonical (codec : Codec) (packet : Packet) (bytes : List UInt8) : Prop :=
  codec = .userPassword → ∃ password,
    Password.reveal bytes packet.secret packet.authenticator = .ok password ∧
      bytes.length = Password.hiddenLength (Utf8.ofString password).length

namespace Codec

variable {codec : Codec} {p q : Packet} {value : Value} {bytes : List UInt8}

/-! ### What the codecs see of a packet -/

/-- Reading a value sees the key of the packet only, and that for a hidden password only. -/
theorem Stock.decode_congr (hcodec : codec.Stock) (h : codec = .userPassword → p.SameKey q) :
    codec.decode p = codec.decode q := by
  cases hcodec with
  | userPassword =>
    obtain ⟨hsecret, hauthenticator⟩ := h rfl
    funext bytes
    simp only [Codec.userPassword, hsecret, hauthenticator]
  | _ => rfl

/-- Writing a value sees the key of the packet only, and that for a hidden password only. -/
theorem Stock.encode_congr (hcodec : codec.Stock) (h : codec = .userPassword → p.SameKey q) :
    codec.encode p = codec.encode q := by
  cases hcodec with
  | userPassword =>
    obtain ⟨hsecret, hauthenticator⟩ := h rfl
    funext value
    simp only [Codec.userPassword, hsecret, hauthenticator]
  | _ => rfl

/-! ### Reading after writing -/

/-- Without a secret no password is hidden. -/
theorem encode_userPassword_text {text : String}
    (h : userPassword.encode p (.text text) = .ok bytes) :
    p.secret.isEmpty = false ∧
      bytes = Password.hide (Utf8.ofString text) p.secret p.authenticator := by
  simp only [userPassword] at h
  split at h
  next => cases h
  next hsecret =>
    cases h
    exact ⟨by simpa using hsecret, rfl⟩

/-- A value of the codec's kind is read back from its bytes. -/
theorem Stock.decode_encode (hcodec : codec.Stock) (hkind : value.kind = codec.kind)
    (hnul : codec = .userPassword → ∀ text, value = .text text →
      text.toList.getLast? ≠ some '\x00')
    (h : codec.encode p value = .ok bytes) : codec.decode p bytes = .ok value := by
  cases hcodec with
  | text =>
    cases value with
    | text content =>
      cases h
      simp only [Codec.text, textOfBytes, Utf8.toString?_ofString]
    | _ => cases hkind
  | octets =>
    cases value with
    | bytes content =>
      cases h
      rfl
    | _ => cases hkind
  | integer =>
    cases value with
    | integer content =>
      cases h
      -- Four bytes hold thirty-two bits, so nothing is reduced.
      have hsmall : content.toNat % capacity 4 = content.toNat :=
        Nat.mod_eq_of_lt content.toNat_lt
      simp only [Codec.integer, length_bigEndian, if_true, bigEndianValue_bigEndian, hsmall,
        UInt32.ofNat_toNat]
    | _ => cases hkind
  | address =>
    cases value with
    | address content =>
      cases h
      rfl
    | _ => cases hkind
  | userPassword =>
    cases value with
    | text content =>
      obtain ⟨hsecret, rfl⟩ := encode_userPassword_text h
      -- Revealing drops all NUL bytes at the end, and the text has none of its own.
      have hpadding : Password.dropPadding (Utf8.ofString content) = Utf8.ofString content :=
        Password.dropPadding_eq_self
          (Utf8.getLast?_ofString_ne_zero (hnul rfl content rfl))
      simp only [Codec.userPassword, hsecret, Bool.false_eq_true, if_false,
        Password.reveal_hide hpadding]
      rfl
    | _ => cases hkind

/-! ### Writing after reading -/

/-- All codecs but one write a value in the bytes that it was read from. -/
theorem Stock.encode_of_decode (hcodec : codec.Stock) (hne : codec ≠ .userPassword)
    (h : codec.decode p bytes = .ok value) : codec.encode p value = .ok bytes := by
  cases hcodec with
  | text =>
    simp only [Codec.text, textOfBytes] at h
    split at h
    next text htext =>
      cases h
      simp only [Codec.text, (Utf8.toString?_eq_some_iff.1 htext).symm]
    next => cases h
  | octets =>
    cases h
    rfl
  | integer =>
    simp only [Codec.integer] at h
    split at h
    next hlength =>
      cases h
      -- Four bytes spell a number of thirty-two bits, so it is kept whole.
      have hbound : bigEndianValue bytes < 2 ^ 32 := by
        have hcapacity := bigEndianValue_lt bytes
        rwa [hlength] at hcapacity
      simp only [Codec.integer, UInt32.toNat_ofNat_of_lt' hbound]
      rw [← hlength, bigEndian_bigEndianValue]
    next => cases h
  | address =>
    simp only [Codec.address, addressOfBytes] at h
    split at h
    next address haddress =>
      cases h
      simp only [Codec.address, (V4.ofBytes?_eq_some_iff.1 haddress).symm]
    next => cases h
  | userPassword => exact absurd rfl hne

/-- A password that was revealed is hidden again by the same key. -/
theorem encode_userPassword_of_decode (h : userPassword.decode p bytes = .ok value) :
    ∃ password, Password.reveal bytes p.secret p.authenticator = .ok password ∧
      userPassword.encode p value
        = .ok (Password.hide (Utf8.ofString password) p.secret p.authenticator) := by
  simp only [userPassword] at h
  split at h
  next => cases h
  next hsecret =>
    cases hreveal : Password.reveal bytes p.secret p.authenticator with
    | error cause =>
      rw [hreveal] at h
      cases h
    | ok password =>
      rw [hreveal] at h
      cases h
      refine ⟨password, rfl, ?_⟩
      simp only [userPassword, if_neg hsecret]

/-- A value that was read can be written again, in no more bytes than it was read from. They are
the same bytes exactly if these are canonical. -/
theorem Stock.exists_encode_of_decode (hcodec : codec.Stock)
    (h : codec.decode p bytes = .ok value) :
    ∃ again, codec.encode p value = .ok again ∧ again.length ≤ bytes.length ∧
      (again = bytes ↔ codec.Canonical p bytes) := by
  by_cases hpassword : codec = .userPassword
  · subst hpassword
    obtain ⟨password, hreveal, hencode⟩ := encode_userPassword_of_decode h
    refine ⟨_, hencode, ?_, ?_⟩
    · rw [Password.length_hide]
      exact Password.hiddenLength_le_of_reveal hreveal
    · rw [Password.hide_eq_iff_of_reveal hreveal]
      constructor
      · exact fun hlength _ => ⟨password, hreveal, hlength⟩
      · intro hcanonical
        obtain ⟨password', hreveal', hlength⟩ := hcanonical rfl
        rw [hreveal, Except.ok.injEq] at hreveal'
        rw [hreveal', hlength]
  · refine ⟨bytes, hcodec.encode_of_decode hpassword h, le_rfl, ?_⟩
    exact iff_of_true rfl (fun heq => absurd heq hpassword)

end Codec

end Radius
