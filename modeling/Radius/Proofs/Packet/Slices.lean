import Radius.Proofs.Packet.Layout

/-!
# `Radius.Proofs.Packet.Slices`: the strict reader with every place checked

`take`, `drop` and a pattern on a list never fail, so `decodeStrict` says nothing about places that
lie outside of its bytes. `decodeStrict?` is the same reader, and takes every byte by its place and
every run of bytes by the places where it starts and stops (`slice?`). It gives up where one of
these lies outside.

* `readRecords?_eq`: a round of the loop that has passed its two checks finds the type, the length,
  the value and the rest inside of what remains.
* `decodeStrict?_eq`: the reader never gives up, and answers as `decodeStrict` does. This holds for
  all bytes, whatever the codecs make of them.
-/

set_option autoImplicit false

namespace Radius.Packet

/-- The bytes from one place up to another, if these are places in the bytes and in order. -/
def slice? (bytes : List UInt8) (start stop : Nat) : Option (List UInt8) :=
  if start ≤ stop ∧ stop ≤ bytes.length then some ((bytes.take stop).drop start) else none

/-- Places in order and in the bytes give a slice. -/
theorem slice?_of_le {bytes : List UInt8} {start stop : Nat} (hstart : start ≤ stop)
    (hstop : stop ≤ bytes.length) :
    slice? bytes start stop = some ((bytes.take stop).drop start) :=
  if_pos ⟨hstart, hstop⟩

/-- A slice has as many bytes as lie between its places. -/
theorem length_of_slice? {bytes part : List UInt8} {start stop : Nat}
    (h : slice? bytes start stop = some part) :
    start ≤ stop ∧ stop ≤ bytes.length ∧ part.length = stop - start := by
  unfold slice? at h
  split at h
  next hplaces =>
    cases h
    refine ⟨hplaces.1, hplaces.2, ?_⟩
    rw [List.length_drop, List.length_take, Nat.min_eq_left hplaces.2]
  next => cases h

/-- The declared length, from the bytes at its two places. -/
def declaredLength? (data : List UInt8) : Option (Except PacketError Nat) :=
  if data.length < minLength then some (.error (.tooShort data.length))
  else
    match data[2]?, data[3]? with
    | some high, some low =>
      let length := bigEndianValue [high, low]
      if length < minLength ∨ maxLength < length then some (.error (.invalidLength length))
      else some (.ok length)
    | _, _ => none

/-- The loop over the records. What remains is cut at the places that the length byte says. -/
def readRecords? (dictionary : Dictionary) (packet : Packet) (remaining : List UInt8) :
    Option (Except PacketError Packet) :=
  if remaining.length = 0 then some (.ok packet)
  else if remaining.length < 2 then some (.error (.recordTooShort remaining.length))
  else
    match remaining[0]?, remaining[1]? with
    | some type, some length =>
      if _hlength : length.toNat < 2 ∨ remaining.length < length.toNat then
        some (.error (.invalidAttributeLength length))
      else
        match slice? remaining 2 length.toNat with
        | none => none
        | some value =>
          match (dictionary.codec type).decode packet value with
          | .error cause => some (.error (.codec cause))
          | .ok value =>
            match _hrest : slice? remaining length.toNat remaining.length with
            | none => none
            | some rest => readRecords? dictionary (packet.append ⟨type, value⟩) rest
    | _, _ => none
termination_by remaining.length
decreasing_by
  obtain ⟨-, -, hshorter⟩ := length_of_slice? _hrest
  omega

/-- The body of a packet, from the places of its parts. The authenticator has to have exactly
sixteen bytes. -/
def readBody? (dictionary : Dictionary) (secret data : List UInt8) :
    Option (Except PacketError Packet) := do
  let authenticator ← (slice? data 4 20).bind Block.ofBytes?
  let code ← data[0]?
  let identifier ← data[1]?
  let records ← slice? data 20 data.length
  readRecords? dictionary
    { code := .ofByte code, identifier, authenticator, secret, raw := some data } records

/-- The strict reader. -/
def decodeStrict? (dictionary : Dictionary) (secret data : List UInt8) :
    Option (Except PacketError Packet) :=
  match declaredLength? data with
  | none => none
  | some (.error cause) => some (.error cause)
  | some (.ok length) =>
    if data.length < length then some (.error (.invalidLength length))
    else (slice? data 0 length).bind (readBody? dictionary secret)

section
variable {dictionary : Dictionary} {packet : Packet} {secret data : List UInt8}

/-- The authenticator of a packet that was written lies inside of its bytes. -/
theorem slice?_authenticator [Digest] {wire : List UInt8} (h : packet.wire dictionary = .ok wire) :
    slice? wire 4 20 = some (Block.ofBytes (wire.drop 4)).bytes := by
  have hlong := (length_of_wire h).1
  rw [slice?_of_le (by omega) hlong, Block.bytes_ofBytes_of_le (by rw [List.length_drop]; omega),
    List.drop_take]

/-- The two bytes of the length are there once twenty bytes are. -/
theorem declaredLength?_eq (data : List UInt8) :
    declaredLength? data = some (declaredLength data) := by
  unfold declaredLength? declaredLength
  split
  next => rfl
  next hlong =>
    rw [minLength, Nat.not_lt] at hlong
    obtain ⟨a, b, c, d, rest, rfl, -⟩ := exists_four_bytes hlong
    simp only [List.getElem?_cons_succ, List.getElem?_cons_zero, List.drop_succ_cons,
      List.drop_zero, List.take_succ_cons, List.take_zero]
    split
    next => rfl
    next => rfl

/-- The value of a record lies inside of what remains. -/
theorem slice?_value (type length : UInt8) {rest : List UInt8} {n : Nat} (hleast : 2 ≤ n)
    (hinside : n ≤ rest.length + 2) :
    slice? (type :: length :: rest) 2 n = some (rest.take (n - 2)) := by
  have hstop : n ≤ (type :: length :: rest).length := hinside
  rw [slice?_of_le hleast hstop]
  obtain ⟨m, rfl⟩ := Nat.exists_eq_add_of_le' hleast
  rfl

/-- So does what follows the record. -/
theorem slice?_rest (type length : UInt8) {rest : List UInt8} {n : Nat} (hleast : 2 ≤ n)
    (hinside : n ≤ rest.length + 2) :
    slice? (type :: length :: rest) n (type :: length :: rest).length
      = some (rest.drop (n - 2)) := by
  have hstart : n ≤ (type :: length :: rest).length := hinside
  rw [slice?_of_le hstart le_rfl, List.take_length]
  obtain ⟨m, rfl⟩ := Nat.exists_eq_add_of_le' hleast
  rfl

/-- Every round of the loop stays inside of what remains. -/
theorem readRecords?_eq (dictionary : Dictionary) (packet : Packet) (remaining : List UInt8) :
    readRecords? dictionary packet remaining = some (readRecords dictionary packet remaining) := by
  -- By the rounds of the reader that does not check its places.
  fun_induction readRecords dictionary packet remaining with
  | case1 packet =>
    rw [readRecords?]
    rfl
  | case2 packet byte =>
    rw [readRecords?]
    rfl
  | case3 packet type length rest houtside =>
    rw [readRecords?, if_neg (by simp), if_neg (by simp)]
    simp only [List.getElem?_cons_succ, List.getElem?_cons_zero]
    exact dif_pos houtside
  | case4 packet type length rest hinside cause hcause =>
    have hplaces : 2 ≤ length.toNat ∧ length.toNat ≤ rest.length + 2 := by omega
    rw [readRecords?, if_neg (by simp), if_neg (by simp)]
    simp only [List.getElem?_cons_succ, List.getElem?_cons_zero]
    rw [dif_neg (show ¬ (length.toNat < 2 ∨ (type :: length :: rest).length < length.toNat) from
      hinside)]
    simp only [slice?_value type length hplaces.1 hplaces.2, hcause]
  | case5 packet type length rest hinside value hvalue ih =>
    have hplaces : 2 ≤ length.toNat ∧ length.toNat ≤ rest.length + 2 := by omega
    have hrest := slice?_rest type length hplaces.1 hplaces.2
    rw [readRecords?, if_neg (by simp), if_neg (by simp)]
    simp only [List.getElem?_cons_succ, List.getElem?_cons_zero]
    rw [dif_neg (show ¬ (length.toNat < 2 ∨ (type :: length :: rest).length < length.toNat) from
      hinside)]
    simp only [slice?_value type length hplaces.1 hplaces.2, hvalue]
    -- The rest is matched together with its equation, so it cannot be rewritten in place.
    split
    next hnone =>
      rw [hrest] at hnone
      cases hnone
    next others hothers =>
      rw [hrest] at hothers
      cases hothers
      exact ih

/-- The parts of a header are inside of twenty bytes. -/
theorem readBody?_eq (h : 20 ≤ data.length) :
    readBody? dictionary secret data = some (readBody dictionary secret data) := by
  obtain ⟨a, b, c, d, rest, rfl, hrest⟩ := exists_four_bytes h
  have hauthenticator : (slice? (a :: b :: c :: d :: rest) 4 20).bind Block.ofBytes?
      = some (Block.ofBytes rest) := by
    have hlength : (rest.take 16).length = 16 := by
      rw [List.length_take, Nat.min_eq_left hrest]
    have hblock : Block.ofBytes rest = ⟨rest.take 16, hlength⟩ :=
      Block.ext (Block.bytes_ofBytes_of_le hrest)
    rw [slice?_of_le (by omega) h, Option.bind_some, hblock]
    exact dif_pos hlength
  have hrecords : slice? (a :: b :: c :: d :: rest) 20 (a :: b :: c :: d :: rest).length
      = some (rest.drop 16) := by
    rw [slice?_of_le h le_rfl, List.take_length]
    rfl
  simp only [readBody?, hauthenticator, hrecords, List.getElem?_cons_succ,
    List.getElem?_cons_zero, Option.bind_eq_bind, Option.bind_some, readRecords?_eq, readBody]

/-- The strict reader never asks for a place outside of its bytes. -/
theorem decodeStrict?_eq (dictionary : Dictionary) (secret data : List UInt8) :
    decodeStrict? dictionary secret data = some (decodeStrict dictionary secret data) := by
  unfold decodeStrict? decodeStrict
  rw [declaredLength?_eq]
  cases hlength : declaredLength data with
  | error cause => rfl
  | ok length =>
    -- A declared length is at least that of a header, so the part that is cut off holds one.
    obtain ⟨-, hleast, -, -⟩ := declaredLength_eq_ok_iff.1 hlength
    simp only
    split
    next => rfl
    next hwhole =>
      rw [slice?_of_le (Nat.zero_le _) (Nat.not_lt.mp hwhole), Option.bind_some, List.drop_zero]
      apply readBody?_eq
      rw [List.length_take]
      omega

end

end Radius.Packet
