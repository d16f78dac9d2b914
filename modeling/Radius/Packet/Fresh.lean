import Radius.Error
import Radius.Packet

/-!
# `Radius.Packet.Fresh`: new packets

A new request needs an identifier and an authenticator that nobody can foresee. The random
bytes come from the caller. Seventeen of them are enough and needed (`fresh_eq_ok_iff`), and
all of these are in the packet (`take_of_fresh`). A reply takes both from its request.
-/

set_option autoImplicit false

namespace Radius.Packet

/-- The number of random bytes that a new packet takes. -/
def entropyLength : Nat := 17

/-- A new packet without attributes. The first random byte is its identifier and the sixteen
after it are its authenticator. -/
def fresh (code : Code) (secret entropy : List UInt8) : Except PacketError Packet :=
  match entropy with
  | identifier :: rest =>
    if rest.length + 1 < entropyLength then .error .entropyUnavailable
    else .ok { code, identifier, authenticator := Block.ofBytes rest, secret }
  | [] => .error .entropyUnavailable

/-- The skeleton of a reply. It keeps the identifier, the secret and the authenticator of the
request; the authenticator seeds the digest of the reply. -/
def response (request : Packet) (code : Code) : Packet :=
  { code, identifier := request.identifier, authenticator := request.authenticator,
    secret := request.secret }

section
variable {code : Code} {secret entropy : List UInt8} {packet : Packet} {cause : PacketError}

/-- A packet is made exactly if there are enough random bytes. -/
theorem fresh_eq_ok_iff :
    fresh code secret entropy = .ok packet ↔ entropyLength ≤ entropy.length ∧
      packet = { code, identifier := entropy.headD 0,
                 authenticator := Block.ofBytes entropy.tail, secret } := by
  unfold fresh
  cases entropy with
  | nil => simp [entropyLength]
  | cons identifier rest =>
    dsimp only
    split
    next hshort =>
      refine iff_of_false (fun h => by cases h) ?_
      rintro ⟨hlong, -⟩
      exact absurd hshort (Nat.not_lt.2 hlong)
    next hlong =>
      rw [Except.ok.injEq, eq_comm]
      exact (and_iff_right (Nat.not_lt.1 hlong)).symm

/-- Otherwise the fault is that there are not. -/
theorem fresh_eq_error_iff :
    fresh code secret entropy = .error cause ↔
      entropy.length < entropyLength ∧ cause = .entropyUnavailable := by
  unfold fresh
  cases entropy with
  | nil => simp [entropyLength, eq_comm]
  | cons identifier rest =>
    dsimp only
    split
    next hshort =>
      rw [Except.error.injEq, eq_comm]
      exact (and_iff_right hshort).symm
    next hlong =>
      refine iff_of_false (fun h => by cases h) ?_
      rintro ⟨hshort, -⟩
      exact hlong hshort

/-- No random byte is lost: the packet holds all that it takes, one after the other. -/
theorem take_of_fresh (h : fresh code secret entropy = .ok packet) :
    entropy.take entropyLength = packet.identifier :: packet.authenticator.bytes := by
  obtain ⟨hlong, rfl⟩ := fresh_eq_ok_iff.1 h
  cases entropy with
  | nil => exact absurd hlong (by decide)
  | cons identifier rest =>
    have hrest : 16 ≤ rest.length := Nat.le_of_succ_le_succ hlong
    show identifier :: rest.take 16 = identifier :: (Block.ofBytes rest).bytes
    rw [Block.bytes_ofBytes_of_le hrest]

end

end Radius.Packet
