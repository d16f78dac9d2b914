import Radius.Text.Digits

/-!
# `Radius.Code`: packet codes

The first byte of a packet says what it is. Codes without a meaning here are kept as their
byte, so `toByte` undoes `ofByte` on every byte (`toByte_ofByte`), and their names are told apart
by that byte, so a code is known from its name (`name_injective`). A code also fixes how the
authenticator field of a packet is filled in on the wire (`Code.sealing`).
-/

set_option autoImplicit false

namespace Radius

/-- What a packet is. -/
inductive Code
  | accessRequest
  | accessAccept
  | accessReject
  | accountingRequest
  | accountingResponse
  | accessChallenge
  | statusServer
  | statusClient
  | disconnectRequest
  | disconnectAck
  | disconnectNak
  | coaRequest
  | coaAck
  | coaNak
  | reserved
  | unknown (byte : UInt8)
  deriving DecidableEq, Repr, Inhabited

/-- How the authenticator field of a packet is filled in on the wire. -/
inductive Sealing
  /-- The field carries the authenticator that the packet holds. -/
  | stored
  /-- The field carries a digest that is seeded with sixteen zero bytes. -/
  | zeroSeeded
  /-- The field carries a digest that is seeded with the authenticator that the packet holds. -/
  | ownSeeded
  /-- The packet has no form on the wire. -/
  | unsealable
  deriving DecidableEq, Repr

namespace Code

/-- The code that a byte stands for. -/
def ofByte (byte : UInt8) : Code :=
  match byte with
  | 1 => .accessRequest
  | 2 => .accessAccept
  | 3 => .accessReject
  | 4 => .accountingRequest
  | 5 => .accountingResponse
  | 11 => .accessChallenge
  | 12 => .statusServer
  | 13 => .statusClient
  | 40 => .disconnectRequest
  | 41 => .disconnectAck
  | 42 => .disconnectNak
  | 43 => .coaRequest
  | 44 => .coaAck
  | 45 => .coaNak
  | 255 => .reserved
  | other => .unknown other

/-- The byte of a code. -/
def toByte : Code → UInt8
  | .accessRequest => 1
  | .accessAccept => 2
  | .accessReject => 3
  | .accountingRequest => 4
  | .accountingResponse => 5
  | .accessChallenge => 11
  | .statusServer => 12
  | .statusClient => 13
  | .disconnectRequest => 40
  | .disconnectAck => 41
  | .disconnectNak => 42
  | .coaRequest => 43
  | .coaAck => 44
  | .coaNak => 45
  | .reserved => 255
  | .unknown byte => byte

/-- The text of a code without a meaning. -/
def unknownText (byte : UInt8) : String :=
  "Unknown(" ++ Decimal.text byte.toNat ++ ")"

/-- The name of a code in messages. -/
def name : Code → String
  | .accessRequest => "Access-Request"
  | .accessAccept => "Access-Accept"
  | .accessReject => "Access-Reject"
  | .accountingRequest => "Accounting-Request"
  | .accountingResponse => "Accounting-Response"
  | .accessChallenge => "Access-Challenge"
  | .statusServer => "Status-Server"
  | .statusClient => "Status-Client"
  | .disconnectRequest => "Disconnect-Request"
  | .disconnectAck => "Disconnect-ACK"
  | .disconnectNak => "Disconnect-NAK"
  | .coaRequest => "CoA-Request"
  | .coaAck => "CoA-ACK"
  | .coaNak => "CoA-NAK"
  | .reserved => "Reserved"
  | .unknown byte => unknownText byte

/-- How the authenticator field of a packet with this code is filled in. -/
def sealing : Code → Sealing
  | .accessRequest | .statusServer => .stored
  | .accountingRequest | .coaRequest | .disconnectRequest => .zeroSeeded
  | .accessAccept | .accessReject | .accessChallenge | .accountingResponse
  | .coaAck | .coaNak | .disconnectAck | .disconnectNak => .ownSeeded
  | .statusClient | .reserved | .unknown _ => .unsealable

/-- The sender keeps the digest that it sends, because replies are checked against it. -/
def keepsDigest : Code → Bool
  | .coaRequest | .disconnectRequest => true
  | _ => false

/-- The packet belongs to an exchange that changes or ends a session. -/
def isDynamic : Code → Bool
  | .coaRequest | .coaAck | .coaNak
  | .disconnectRequest | .disconnectAck | .disconnectNak => true
  | _ => false

/-- Every byte survives as the code that it stands for. -/
@[simp] theorem toByte_ofByte (byte : UInt8) : (ofByte byte).toByte = byte := by
  unfold ofByte
  split <;> rfl

/-! ### What names tell -/

/-- The codes with a meaning. -/
def known : List Code := [
  .accessRequest, .accessAccept, .accessReject, .accountingRequest, .accountingResponse,
  .accessChallenge, .statusServer, .statusClient, .disconnectRequest, .disconnectAck,
  .disconnectNak, .coaRequest, .coaAck, .coaNak, .reserved]

/-- A code has a meaning, or it is a byte without one. -/
theorem mem_known_or (code : Code) : code ∈ known ∨ ∃ byte, code = .unknown byte := by
  cases code with
  | unknown byte => exact .inr ⟨byte, rfl⟩
  | _ => exact .inl (by decide)

/-- The texts of two bytes without a meaning differ. -/
theorem unknownText_injective : Function.Injective unknownText := by
  intro a b h
  unfold unknownText at h
  rw [String.append_left_inj, String.append_right_inj] at h
  exact UInt8.toNat_inj.1 (Decimal.text_injective h)

/-- No code with a meaning has the name of a code without one. -/
theorem name_ne_unknownText {code : Code} (h : code ∈ known) (byte : UInt8) :
    code.name ≠ unknownText byte := by
  -- The first characters differ.
  have hinitial : ∀ other ∈ known, other.name.toList.head? ≠ some 'U' := by decide
  intro hname
  apply hinitial code h
  rw [hname]
  simp [unknownText]

/-- A code can be told from its name. -/
theorem name_injective : Function.Injective name := by
  have hknown : ∀ a ∈ known, ∀ b ∈ known, a.name = b.name → a = b := by decide
  intro a b h
  rcases mem_known_or a with ha | ⟨byte, rfl⟩
  · rcases mem_known_or b with hb | ⟨byte, rfl⟩
    · exact hknown a ha b hb h
    · exact absurd h (name_ne_unknownText ha byte)
  · rcases mem_known_or b with hb | ⟨other, rfl⟩
    · exact absurd h.symm (name_ne_unknownText hb byte)
    · exact congrArg unknown (unknownText_injective h)

end Code

end Radius
