import Radius.Packet.Authenticity

/-!
# `Radius.Proofs.Code`: the codes that have a form on the wire

`Code.sealing` and `Code.checkSeed?` sort the codes by what stands in the authenticator field.
This file lists the sorts code by code, and proves that the lists say the same:

* `Code.stored` and `Code.computed` are the thirteen codes that a packet can be written with
  (`sealing_eq_stored_iff`, `mem_computed_iff`, `sealing_eq_unsealable_iff`). Each of them is
  read back from its byte (`ofByte_toByte`).
* `Code.zeroSeeded` are the three of them whose digest is the same whatever authenticator the packet
  holds (`sealing_eq_zeroSeeded_iff`), and `Code.dynamic` the six that `Code.isDynamic` tests for
  (`isDynamic_iff`).
* `Code.checked` are the eight codes whose packets can be checked against a request, and
  `checkSeed?_eq_some_iff` says with which seed. `Code.replies` are the seven among them that
  answer a request, and `Code.requests` the codes of the requests that they answer.
-/

set_option autoImplicit false

namespace Radius.Code

/-- The codes whose packets carry the authenticator that they hold. -/
def stored : List Code := [.accessRequest, .statusServer]

/-- The codes whose packets carry a computed digest. -/
def computed : List Code := [
  .accessAccept, .accessReject, .accessChallenge, .accountingRequest, .accountingResponse,
  .coaRequest, .coaAck, .coaNak, .disconnectRequest, .disconnectAck, .disconnectNak]

/-- The codes that answer a request. -/
def replies : List Code := [
  .accessAccept, .accessReject, .accessChallenge, .coaAck, .coaNak, .disconnectAck,
  .disconnectNak]

/-- The codes whose packets can be checked against a request. -/
def checked : List Code := .accountingRequest :: replies

/-- The codes of the requests that replies are checked against. -/
def requests : List Code := [.accessRequest, .statusServer, .coaRequest, .disconnectRequest]

/-- The codes whose packets carry a digest that no authenticator goes into. -/
def zeroSeeded : List Code := [.accountingRequest, .coaRequest, .disconnectRequest]

/-- The codes of the exchanges that change or end a session. -/
def dynamic : List Code := [
  .coaRequest, .coaAck, .coaNak, .disconnectRequest, .disconnectAck, .disconnectNak]

/-- What seeds the digest of a packet with this code, against a request that holds the given
authenticator. -/
def digestSeed (request : Block) (code : Code) : Block :=
  if code = .accountingRequest then .zero else request

variable {code : Code}

/-- The field is filled in with the authenticator of the packet for two codes. -/
theorem sealing_eq_stored_iff : code.sealing = .stored ↔ code ∈ stored := by
  cases code <;> simp [sealing, stored]

/-- The field is filled in with a digest for eleven codes, with one seed or the other. -/
theorem mem_computed_iff :
    code ∈ computed ↔ code.sealing = .zeroSeeded ∨ code.sealing = .ownSeeded := by
  cases code <;> simp [sealing, computed]

/-- All other codes have no form on the wire. -/
theorem sealing_eq_unsealable_iff :
    code.sealing = .unsealable ↔ code ∉ stored ∧ code ∉ computed := by
  cases code <;> simp [sealing, stored, computed]

/-- The digest of three requests is seeded with zeros. -/
theorem sealing_eq_zeroSeeded_iff : code.sealing = .zeroSeeded ↔ code ∈ zeroSeeded := by
  cases code <;> simp [sealing, zeroSeeded]

/-- The codes of the exchanges that change or end a session. -/
theorem isDynamic_iff : code.isDynamic = true ↔ code ∈ dynamic := by
  cases code <;> simp [isDynamic, dynamic]

/-- The digest of a reply is seeded with the authenticator that the reply holds. -/
theorem sealing_of_mem_replies (h : code ∈ replies) : code.sealing = .ownSeeded := by
  cases code <;> simp_all [sealing, replies]

/-- A code with a form on the wire is read back from its byte. Only `unknown` can hold the
byte of another code, and it has no form on the wire. -/
theorem ofByte_toByte (h : code.sealing ≠ .unsealable) : ofByte code.toByte = code := by
  cases code with
  | unknown byte => exact absurd rfl h
  | _ => rfl

/-- A packet that carries a digest has a form on the wire. -/
theorem sealing_ne_unsealable_of_mem_computed (h : code ∈ computed) :
    code.sealing ≠ .unsealable := by
  intro hsealing
  exact (sealing_eq_unsealable_iff.1 hsealing).2 h

/-- So its byte tells its code. -/
theorem eq_of_toByte_eq {other : Code} (h : code ∈ computed) (h' : other ∈ computed)
    (hbyte : code.toByte = other.toByte) : code = other := by
  rw [← ofByte_toByte (sealing_ne_unsealable_of_mem_computed h), hbyte,
    ofByte_toByte (sealing_ne_unsealable_of_mem_computed h')]

/-- A sender that carries its authenticator keeps it too. -/
theorem keepsDigest_of_mem_stored (h : code ∈ stored) : code.keepsDigest = false := by
  cases code <;> simp_all [keepsDigest, stored]

/-- A sender keeps the digest of the two requests that change or end a session. -/
theorem keepsDigest_iff :
    code.keepsDigest = true ↔ code = .coaRequest ∨ code = .disconnectRequest := by
  cases code <;> simp [keepsDigest]

/-- Which packets are checked, and with which seed. -/
theorem checkSeed?_eq_some_iff {request seed : Block} :
    code.checkSeed? request = some seed ↔ code ∈ checked ∧ seed = digestSeed request code := by
  cases code <;> simp [checkSeed?, checked, replies, digestSeed, eq_comm]

/-- A request is sent with the authenticator that it holds, or keeps the digest that it is sent
with. -/
theorem mem_stored_or_keepsDigest_of_mem_requests (h : code ∈ requests) :
    code ∈ stored ∨ code.keepsDigest = true := by
  cases code <;> simp_all [requests, stored, keepsDigest]

/-- A reply is checked with the authenticator of its request. -/
theorem digestSeed_of_mem_replies {request : Block} (h : code ∈ replies) :
    code.digestSeed request = request := by
  cases code <;> simp_all [replies, digestSeed]

/-- A packet that can be checked can be written. -/
theorem mem_computed_of_mem_checked (h : code ∈ checked) : code ∈ computed := by
  cases code <;> simp_all [checked, replies, computed]

end Radius.Code
