import Radius.Digest.Md5
import Radius.Proofs.Packet.Layout

/-!
# `Radius.Proofs.Packet.Secret`: what the secret has to do with what is read

A reader puts the secret into the packet before it reads the first record, and hands the packet to
every codec as it grows. Only the codec of hidden passwords looks at the secret. So the theorems
compare two readings of one datagram, with different secrets:

* `readRecords_withSecret`: the readings agree in their outcome, faults included, if no record
  holds a hidden password (`NothingHidden`). The records may break off anywhere.
* `alike_of_readBody`: with hidden passwords the readings may refuse different records. If both
  succeed, the packets are the same but for the secret and the values that were hidden
  (`AlikeButHidden`).

`readers_of_two_secrets` says both of the two readers.
-/

set_option autoImplicit false

namespace Radius.Packet

/-- The packet with another secret. -/
def withSecret (packet : Packet) (secret : List UInt8) : Packet :=
  { packet with secret }

section
variable [Digest]

/-- As far as these bytes are a row of records, no record of it holds a hidden password. What breaks
the row off may be anything. -/
def NothingHidden (dictionary : Dictionary) (bytes : List UInt8) : Prop :=
  ∀ records front rest, bytes = front ++ rest → Framed records front →
    ∀ record ∈ records, dictionary.codec record.type ≠ .userPassword

/-- The attributes have one type. They have one value as well, unless it travels hidden. -/
def AlikeUnlessHidden (dictionary : Dictionary) (attr other : Attribute) : Prop :=
  attr.type = other.type ∧
    (dictionary.codec attr.type ≠ .userPassword → attr.value = other.value)

/-- The packets are the same but for the secret and the values that travel hidden. -/
structure AlikeButHidden (dictionary : Dictionary) (packet other : Packet) : Prop where
  code : packet.code = other.code
  identifier : packet.identifier = other.identifier
  authenticator : packet.authenticator = other.authenticator
  raw : packet.raw = other.raw
  attributes : List.Forall₂ (AlikeUnlessHidden dictionary) packet.attributes other.attributes

variable {dictionary : Dictionary} {packet p q : Packet} {secret other data bytes : List UInt8}

/-! ### Nothing is hidden -/

omit [Digest] in
/-- The secret stays out of the way while the packet grows. -/
theorem append_withSecret (packet : Packet) (secret : List UInt8) (attr : Attribute) :
    (packet.append attr).withSecret secret = (packet.withSecret secret).append attr := rfl

/-- Too few bytes for a record hold none. -/
theorem nothingHidden_of_length_lt (h : bytes.length < 2) : NothingHidden dictionary bytes := by
  rintro records front rest rfl hframed record hrecord
  cases records with
  | nil => cases hrecord
  | cons first others =>
    -- A first record would have two bytes at least.
    obtain ⟨-, after, rfl, -⟩ := framed_cons_iff.1 hframed
    simp only [List.length_append, Record.length_bytes] at h
    omega

/-- Nothing is hidden in bytes that start with a record exactly if this record holds no password and
nothing is hidden in what follows it. -/
theorem nothingHidden_bytes_append_iff {record : Record} {rest : List UInt8}
    (hfit : record.value.length ≤ maxValueLength) :
    NothingHidden dictionary (record.bytes ++ rest) ↔
      dictionary.codec record.type ≠ .userPassword ∧ NothingHidden dictionary rest := by
  constructor
  · intro h
    constructor
    · -- The record is a row by itself.
      have hrow : Framed [record] record.bytes :=
        framed_cons_iff.2 ⟨hfit, [], (List.append_nil _).symm, framed_nil_iff.2 rfl⟩
      exact h [record] record.bytes rest rfl hrow record (by simp)
    · -- A row in front of the rest is the tail of a row in front of the whole.
      intro records front back hrest hframed later hlater
      have hrow : Framed (record :: records) (record.bytes ++ front) :=
        framed_cons_iff.2 ⟨hfit, front, rfl, hframed⟩
      have hwhole : record.bytes ++ rest = (record.bytes ++ front) ++ back := by
        rw [hrest, List.append_assoc]
      exact h _ _ back hwhole hrow later (by simp [hlater])
  · rintro ⟨hplain, hrest⟩ records front back hwhole hframed later hlater
    cases records with
    | nil => cases hlater
    | cons first others =>
      obtain ⟨hfit', front', rfl, hothers⟩ := framed_cons_iff.1 hframed
      rw [List.append_assoc] at hwhole
      obtain ⟨rfl, rfl⟩ := Record.eq_of_append_eq hfit hfit' hwhole
      rcases List.mem_cons.mp hlater with rfl | hlater
      · exact hplain
      · exact hrest others front' back rfl hothers later hlater

/-- If nothing is hidden, the records are read alike with any secret, with the same first fault. -/
theorem readRecords_withSecret (hstock : ∀ type, (dictionary.codec type).Stock)
    (h : NothingHidden dictionary bytes) :
    readRecords dictionary (packet.withSecret other) bytes
      = (readRecords dictionary packet bytes).map fun q => q.withSecret other := by
  -- By the rounds of the reader, which both readings go through together.
  fun_induction readRecords dictionary packet bytes with
  | case1 packet =>
    rw [readRecords]
    rfl
  | case2 packet byte =>
    rw [readRecords]
    rfl
  | case3 packet type length rest houtside =>
    rw [readRecords, if_pos houtside]
    rfl
  | case4 packet type length rest hinside cause hcause =>
    obtain ⟨hfit, hrecord⟩ := Record.bytes_of_length type hinside
    rw [hrecord] at h
    have hplain : dictionary.codec type ≠ .userPassword :=
      ((nothingHidden_bytes_append_iff hfit).1 h).1
    rw [readRecords, if_neg hinside,
      (hstock type).decode_congr fun hpassword => absurd hpassword hplain, hcause]
    rfl
  | case5 packet type length rest hinside value hvalue ih =>
    obtain ⟨hfit, hrecord⟩ := Record.bytes_of_length type hinside
    rw [hrecord] at h
    obtain ⟨hplain, hrest⟩ := (nothingHidden_bytes_append_iff hfit).1 h
    rw [readRecords, if_neg hinside,
      (hstock type).decode_congr fun hpassword => absurd hpassword hplain, hvalue]
    show readRecords dictionary ((packet.withSecret other).append ⟨type, value⟩) _ = _
    rw [← append_withSecret]
    exact ih hrest

/-- The same for a datagram that has a header. -/
theorem readBody_withSecret (hstock : ∀ type, (dictionary.codec type).Stock)
    (hlong : 20 ≤ data.length) (h : NothingHidden dictionary (data.drop 20)) :
    readBody dictionary other data
      = (readBody dictionary secret data).map fun q => q.withSecret other := by
  rw [readBody_eq hlong, readBody_eq hlong]
  show readRecords dictionary ((ofHeader secret data).withSecret other) (data.drop 20) = _
  exact readRecords_withSecret hstock h

/-! ### Both readings succeed -/

/-- A record that both readings accept is read as one value, unless it is hidden. -/
theorem alike_of_reads (hstock : ∀ type, (dictionary.codec type).Stock) {record : Record}
    {attr attr' : Attribute} (h : Reads dictionary p record attr)
    (h' : Reads dictionary q record attr') : AlikeUnlessHidden dictionary attr attr' := by
  refine ⟨h.1.trans h'.1.symm, fun hplain => ?_⟩
  have hagain : Reads dictionary q record attr :=
    h.congr (hstock _) fun hpassword => absurd (h.1 ▸ hpassword) hplain
  -- The codec makes one value of the bytes with the second key.
  have hvalues := hagain.2.symm.trans h'.2
  rwa [Except.ok.injEq] at hvalues

/-- A row of records that both readings accept is read as attributes that correspond one by one. -/
theorem forall₂_alike_of_reads (hstock : ∀ type, (dictionary.codec type).Stock)
    {records : List Record} {attributes attributes' : List Attribute}
    (h : List.Forall₂ (Reads dictionary p) records attributes)
    (h' : List.Forall₂ (Reads dictionary q) records attributes') :
    List.Forall₂ (AlikeUnlessHidden dictionary) attributes attributes' := by
  induction h generalizing attributes' with
  | nil =>
    rw [List.forall₂_nil_left_iff.1 h']
    exact .nil
  | cons hread hreads ih =>
    obtain ⟨attr', rest', hread', hrest', rfl⟩ := List.forall₂_cons_left_iff.1 h'
    exact .cons (alike_of_reads hstock hread hread') (ih hrest')

/-- If a datagram that has a header is read with both secrets, the packets are alike. -/
theorem alike_of_readBody (hstock : ∀ type, (dictionary.codec type).Stock)
    (hlong : 20 ≤ data.length) (h : readBody dictionary secret data = .ok p)
    (h' : readBody dictionary other data = .ok q) : AlikeButHidden dictionary p q := by
  rw [readBody_eq hlong, readRecords_eq_ok_iff hstock] at h h'
  obtain ⟨records, attributes, hframed, hreads, rfl⟩ := h
  obtain ⟨records', attributes', hframed', hreads', rfl⟩ := h'
  -- Bytes are a row of records in one way, so both readings found the same records.
  rw [hframed'.unique hframed] at hreads'
  exact {
    code := rfl
    identifier := rfl
    authenticator := rfl
    raw := rfl
    attributes := forall₂_alike_of_reads hstock hreads hreads' }

/-! ### The two readers -/

/-- The lenient reader decides about the declared length without the secret. -/
theorem decode_withSecret (hstock : ∀ type, (dictionary.codec type).Stock)
    (h : NothingHidden dictionary (data.drop 20)) :
    decode dictionary other data
      = (decode dictionary secret data).map fun q => q.withSecret other := by
  unfold decode
  cases hn : declaredLength data with
  | error cause => rfl
  | ok n =>
    obtain ⟨hlong, -⟩ := declaredLength_eq_ok_iff.1 hn
    exact readBody_withSecret hstock hlong h

/-- So does the strict one, and it looks for records in the declared part only. -/
theorem decodeStrict_withSecret (hstock : ∀ type, (dictionary.codec type).Stock)
    (h : NothingHidden dictionary ((data.take (lengthField data)).drop 20)) :
    decodeStrict dictionary other data
      = (decodeStrict dictionary secret data).map fun q => q.withSecret other := by
  unfold decodeStrict
  cases hn : declaredLength data with
  | error cause => rfl
  | ok n =>
    obtain ⟨-, hleast, -, hfield⟩ := declaredLength_eq_ok_iff.1 hn
    rw [hfield] at h
    dsimp only
    by_cases hcut : data.length < n
    · rw [if_pos hcut, if_pos hcut]
      rfl
    · have hlong : 20 ≤ (data.take n).length := by
        rw [List.length_take]
        omega
      rw [if_neg hcut, if_neg hcut]
      exact readBody_withSecret hstock hlong h

/-- A datagram that either reader reads with both secrets is read as packets that are alike. -/
theorem alike_of_readers (hstock : ∀ type, (dictionary.codec type).Stock) {reader : Reader}
    (hreader : reader = decode ∨ reader = decodeStrict)
    (h : reader dictionary secret data = .ok p) (h' : reader dictionary other data = .ok q) :
    AlikeButHidden dictionary p q := by
  rcases hreader with rfl | rfl
  · obtain ⟨hlong, -, -, hbody⟩ := decode_eq_ok_iff.1 h
    obtain ⟨-, -, -, hbody'⟩ := decode_eq_ok_iff.1 h'
    exact alike_of_readBody hstock hlong hbody hbody'
  · obtain ⟨hleast, -, hwhole, hbody⟩ := decodeStrict_eq_ok_iff.1 h
    obtain ⟨-, -, -, hbody'⟩ := decodeStrict_eq_ok_iff.1 h'
    have hlength := (lengthField_take_lengthField hleast hwhole).1
    exact alike_of_readBody hstock (by omega) hbody hbody'

/-- What the secret has to do with what either reader makes of a datagram.

* If no record holds a hidden password, two secrets lead to the same fault, or to packets that
  differ in the secret alone. The records are those in the part of the datagram that the reader
  reads: all of it for `decode`, the declared length for `decodeStrict`.
* Whatever is hidden, if the datagram is read with both secrets, the packets have the same header,
  the same raw bytes and the same types of attributes, and the same values where nothing was
  hidden. -/
theorem readers_of_two_secrets (hbuilt : dictionary.BuiltFrom Codec.Stock)
    (secret other data : List UInt8) :
    (NothingHidden dictionary (data.drop 20) →
      decode dictionary other data
        = (decode dictionary secret data).map fun q => q.withSecret other) ∧
    (NothingHidden dictionary ((data.take (lengthField data)).drop 20) →
      decodeStrict dictionary other data
        = (decodeStrict dictionary secret data).map fun q => q.withSecret other) ∧
    ∀ reader, reader = decode ∨ reader = decodeStrict →
      ∀ p q, reader dictionary secret data = .ok p → reader dictionary other data = .ok q →
        AlikeButHidden dictionary p q :=
  ⟨decode_withSecret hbuilt.stock, decodeStrict_withSecret hbuilt.stock,
    fun _ hreader _ _ => alike_of_readers hbuilt.stock hreader⟩

end

/-- A request of alice with the password `correct horse 42`, hidden with the secret `xy`. -/
def passwordRequest : List UInt8 :=
  [1, 7, 0, 45] ++ List.replicate 16 7 ++ [1, 7] ++ Utf8.ofString "alice" ++ [2, 18]
    ++ Password.hide (Utf8.ofString "correct horse 42") [120, 121] ⟨List.replicate 16 7, rfl⟩

/-- What is read from it with a secret, if this reveals the password as some text. -/
def passwordRead (secret : List UInt8) (password : String) : Packet where
  code := .accessRequest
  identifier := 7
  authenticator := ⟨List.replicate 16 7, rfl⟩
  secret
  raw := some passwordRequest
  attributes := [⟨1, .text "alice"⟩, ⟨2, .text password⟩]

/-- A request with a port, and a single byte after its declared end. -/
def trailedPort : List UInt8 :=
  [1, 7, 0, 26] ++ List.replicate 16 7 ++ [5, 6, 0, 0, 0, 3] ++ [2]

/-- The packet of its declared part. -/
def trailedPortRead (secret : List UInt8) : Packet where
  code := .accessRequest
  identifier := 7
  authenticator := ⟨List.replicate 16 7, rfl⟩
  secret
  raw := some (trailedPort.take 26)
  attributes := [⟨5, .integer 3⟩]

/-- Of the request with a password, two secrets make packets with different passwords and the same
user. The request with a port is refused by the lenient reader and taken by the strict one, without
any secret as well as with one. -/
theorem readers_of_two_secrets_garbled :
    AlikeButHidden .standard (passwordRead [120, 121] "correct horse 42")
        (passwordRead [98, 112, 107, 107, 117] "tviC5=C(c+99q+dm") ∧
      decode .standard [120, 121] trailedPort = .error (.recordTooShort 1) ∧
      decodeStrict .standard [120, 121] trailedPort = .ok (trailedPortRead [120, 121]) := by
  have hbuilt := Dictionary.builtFrom_standard
  obtain ⟨-, -, halike⟩ :=
    readers_of_two_secrets hbuilt [120, 121] [98, 112, 107, 107, 117] passwordRequest
  obtain ⟨hlenient, hstrict, -⟩ := readers_of_two_secrets hbuilt [] [120, 121] trailedPort
  have hport : Dictionary.standard.codec 5 ≠ .userPassword := by
    intro hcodec
    have hkind := congrArg Codec.kind hcodec
    exact absurd hkind (by decide +kernel)
  have hrow : ∀ rest : List UInt8, rest.length < 2 →
      NothingHidden .standard (Record.bytes ⟨5, [0, 0, 0, 3]⟩ ++ rest) := fun _ hshort =>
    (nothingHidden_bytes_append_iff (by decide)).2 ⟨hport, nothingHidden_of_length_lt hshort⟩
  have hrefused : decode .standard [] trailedPort = .error (.recordTooShort 1) := by
    decide +kernel
  have htaken : decodeStrict .standard [] trailedPort = .ok (trailedPortRead []) := by
    decide +kernel
  refine ⟨?_, ?_, ?_⟩
  · exact halike decode (.inl rfl) _ _ (by decide +kernel) (by decide +kernel)
  · rw [hlenient (hrow [2] (by decide)), hrefused]
    rfl
  · rw [hstrict (hrow [] (by decide)), htaken]
    rfl

end Radius.Packet
