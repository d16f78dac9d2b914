import Radius.Packet.Fresh
import Radius.Proofs.Packet.Access
import Radius.Proofs.Packet.Outcome

/-!
# `Radius.Proofs.Packet.Run`: packets over their life

A packet is made from its parts, as a reply to another one, or by a reader (`Start`). After that
it is changed by calls (`Edit`), some of which can fail and then leave it as it was. `run` is the
packet after any number of them.

`WellKinded` is the invariant: every attribute holds a value of the kind that the codec of its type
reads. Four writers have to keep it, and they find the codec in different ways:

* a reader takes the codec of the type in the record (`wellKinded_of_readBody`);
* `add` finds the type by the name, and the codec by the type (`kind_of_resolve`);
* `set` finds an attribute by the name of its type, and takes the codec of that type. Two types can
  share a name, so this need not be the type that the name leads to (`wellKinded_of_set`);
* all other calls only move or drop attributes.

`wellKinded_apply` is one call, `wellKinded_foldl` any number of them. `cause_of_encode` is what is
left of `WriteFault` for values of the right kinds, and `wellKinded_run` puts these together.
-/

set_option autoImplicit false

namespace Radius.Packet

/-- Every value has the kind of its type's codec. -/
def WellKinded (dictionary : Dictionary) (attributes : List Attribute) : Prop :=
  ∀ attr ∈ attributes, attr.value.kind = (dictionary.codec attr.type).kind

/-- How a packet comes about. -/
inductive Start (dictionary : Dictionary) : Packet → Prop
  | parts (code : Code) (identifier : UInt8) (authenticator : Block) (secret : List UInt8) :
      Start dictionary { code, identifier, authenticator, secret }
  | response (request : Packet) (code : Code) : Start dictionary (request.response code)
  | decode {secret data : List UInt8} {packet : Packet}
      (h : Packet.decode dictionary secret data = .ok packet) : Start dictionary packet
  | decodeStrict {secret data : List UInt8} {packet : Packet}
      (h : Packet.decodeStrict dictionary secret data = .ok packet) : Start dictionary packet

/-- A new request comes about from its parts, whatever the random bytes are. -/
theorem start_of_fresh (dictionary : Dictionary) {code : Code} {secret entropy : List UInt8}
    {packet : Packet} (h : fresh code secret entropy = .ok packet) : Start dictionary packet := by
  obtain ⟨-, rfl⟩ := fresh_eq_ok_iff.1 h
  exact .parts code _ _ secret

/-- A call on a packet. -/
inductive Edit
  | add (name : String) (value : Value)
  | set (name : String) (value : Value)
  | clear
  /-- Drops the attribute at one place. -/
  | remove (index : Nat)
  /-- Drops all attributes but some. -/
  | retain (keep : Attribute → Bool)
  | encode
  | clone
  | assignCode (code : Code)
  | assignIdentifier (identifier : UInt8)
  | assignAuthenticator (authenticator : Block)
  | assignSecret (secret : List UInt8)

/-- The packet after a call. A call that failed leaves it as it was. -/
def settle (packet : Packet) : Except PacketError Packet → Packet
  | .ok next => next
  | .error _ => packet

section
variable [Digest]

/-- The packet after one call. -/
def Edit.apply (dictionary : Dictionary) (packet : Packet) : Edit → Packet
  | .add name value => packet.settle (packet.add dictionary name value)
  | .set name value => packet.settle (packet.set dictionary name value)
  | .clear => packet.clear
  | .remove index => { packet with attributes := packet.attributes.eraseIdx index }
  | .retain keep => { packet with attributes := packet.attributes.filter keep }
  | .encode => packet.settle ((packet.encode dictionary).map Prod.snd)
  | .clone => packet
  | .assignCode code => { packet with code }
  | .assignIdentifier identifier => { packet with identifier }
  | .assignAuthenticator authenticator => { packet with authenticator }
  | .assignSecret secret => { packet with secret }

/-- The packet after some calls, one after the other. -/
def run (dictionary : Dictionary) (packet : Packet) (edits : List Edit) : Packet :=
  edits.foldl (Edit.apply dictionary) packet

end

section
variable {dictionary : Dictionary} {attributes : List Attribute}

/-! ### The invariant under changes of a list -/

/-- A packet without attributes is well-kinded. -/
theorem wellKinded_nil (dictionary : Dictionary) : WellKinded dictionary [] := by
  simp [WellKinded]

/-- Dropping attributes keeps the kinds of the others. -/
theorem WellKinded.sublist {kept : List Attribute} (h : WellKinded dictionary attributes)
    (hkept : kept.Sublist attributes) : WellKinded dictionary kept :=
  fun attr hattr => h attr (hkept.subset hattr)

/-- An attribute in front of others is well-kinded if it and they are. -/
theorem wellKinded_cons_iff {attr : Attribute} :
    WellKinded dictionary (attr :: attributes) ↔
      attr.value.kind = (dictionary.codec attr.type).kind ∧ WellKinded dictionary attributes :=
  List.forall_mem_cons

/-- Two rows of attributes are well-kinded together if both are. -/
theorem wellKinded_append_iff {others : List Attribute} :
    WellKinded dictionary (attributes ++ others) ↔
      WellKinded dictionary attributes ∧ WellKinded dictionary others :=
  List.forall_mem_append

/-- A call that can fail keeps the kinds if it does so where it succeeds. -/
theorem wellKinded_settle {packet : Packet} {result : Except PacketError Packet}
    (hpacket : WellKinded dictionary packet.attributes)
    (h : ∀ next, result = .ok next → WellKinded dictionary next.attributes) :
    WellKinded dictionary (packet.settle result).attributes := by
  cases result with
  | error cause => exact hpacket
  | ok next => exact h next rfl

variable [Digest] {packet next : Packet} {name : String} {value : Value}

/-! ### The writers -/

/-- Records read as values of the right kinds. -/
theorem wellKinded_of_reads {records : List Record}
    (hstock : ∀ type, (dictionary.codec type).Stock)
    (h : List.Forall₂ (Reads dictionary packet) records attributes) :
    WellKinded dictionary attributes := by
  induction h with
  | nil => exact wellKinded_nil dictionary
  | cons hread hreads ih =>
    obtain ⟨htype, hvalue⟩ := hread
    refine wellKinded_cons_iff.2 ⟨?_, ih⟩
    rw [htype]
    exact (hstock _).kind_of_decode hvalue

/-- A packet that was read is well-kinded. -/
theorem wellKinded_of_readBody {secret data : List UInt8}
    (hstock : ∀ type, (dictionary.codec type).Stock) (hlong : 20 ≤ data.length)
    (h : readBody dictionary secret data = .ok packet) :
    WellKinded dictionary packet.attributes := by
  obtain ⟨records, -, hreads⟩ := reads_of_readBody hstock hlong h
  exact wellKinded_of_reads hstock hreads

/-- However a packet comes about, it is well-kinded. -/
theorem Start.wellKinded (hstock : ∀ type, (dictionary.codec type).Stock)
    (h : Start dictionary packet) : WellKinded dictionary packet.attributes := by
  cases h with
  | parts => exact wellKinded_nil dictionary
  | response => exact wellKinded_nil dictionary
  | decode h =>
    obtain ⟨hlong, -, -, hbody⟩ := decode_eq_ok_iff.1 h
    exact wellKinded_of_readBody hstock hlong hbody
  | decodeStrict h =>
    obtain ⟨hleast, -, hwhole, hbody⟩ := decodeStrict_eq_ok_iff.1 h
    have hlong := (lengthField_take_lengthField hleast hwhole).1
    exact wellKinded_of_readBody hstock (by omega) hbody

/-- The attribute that a dictionary makes of a name and a value holds a value of the kind of its
type's codec. -/
theorem kind_of_resolve {attr : Attribute} (hstock : ∀ type, (dictionary.codec type).Stock)
    (h : dictionary.resolve name value = .ok attr) :
    attr.value.kind = (dictionary.codec attr.type).kind := by
  unfold Dictionary.resolve at h
  split at h
  next => cases h
  next type htype =>
    -- No codec of the library takes a value as it comes. Each makes one of its own kind.
    obtain ⟨normalize, hnormalize, hkind⟩ := (hstock type).exists_normalize
    simp only [hnormalize] at h
    split at h
    next stored hstored =>
      cases h
      exact hkind _ _ hstored
    next => cases h

/-- Adding an attribute keeps the kinds. -/
theorem wellKinded_of_add (hstock : ∀ type, (dictionary.codec type).Stock)
    (hpacket : WellKinded dictionary packet.attributes)
    (h : packet.add dictionary name value = .ok next) :
    WellKinded dictionary next.attributes := by
  obtain ⟨attr, hattr, rfl⟩ := add_eq_ok_iff.1 h
  exact wellKinded_append_iff.2
    ⟨hpacket, wellKinded_cons_iff.2 ⟨kind_of_resolve hstock hattr, wellKinded_nil _⟩⟩

/-- What takes the place of a value has the kind of the codec that normalized it. -/
theorem kind_of_replacement {codec : Codec} {stored : Value} (hcodec : codec.Stock)
    (h : replacement codec name value = .ok stored) : stored.kind = codec.kind := by
  obtain ⟨normalize, hnormalize, hkind⟩ := hcodec.exists_normalize
  unfold replacement at h
  simp only [hnormalize] at h
  split at h
  next normalized hnormalized =>
    cases h
    exact hkind _ _ hnormalized
  next => cases h

/-- Setting a value keeps the kinds, whether it replaces one or is added. -/
theorem wellKinded_of_set (hstock : ∀ type, (dictionary.codec type).Stock)
    (hpacket : WellKinded dictionary packet.attributes)
    (h : packet.set dictionary name value = .ok next) :
    WellKinded dictionary next.attributes := by
  rcases set_eq_ok_iff.1 h with ⟨before, attr, after, stored, hfirst, hstored, rfl⟩ | ⟨-, hadded⟩
  · -- The other attributes are as they were, and this one has a value from its own codec.
    rw [hfirst.split, wellKinded_append_iff, wellKinded_cons_iff] at hpacket
    obtain ⟨hbefore, -, hafter⟩ := hpacket
    have hkind := kind_of_replacement (hstock attr.type) hstored
    exact wellKinded_append_iff.2 ⟨hbefore, wellKinded_cons_iff.2 ⟨hkind, hafter⟩⟩
  · exact wellKinded_of_add hstock hpacket hadded

/-- Sending a packet changes no attribute. -/
theorem attributes_of_encode {wire : List UInt8}
    (h : packet.encode dictionary = .ok (wire, next)) : next.attributes = packet.attributes := by
  obtain ⟨-, rfl⟩ := encode_eq_ok_iff.1 h
  unfold sent
  split
  · rfl
  · rfl

/-! ### Calls, one after the other -/

/-- Every call keeps the kinds. -/
theorem wellKinded_apply (hstock : ∀ type, (dictionary.codec type).Stock)
    (hpacket : WellKinded dictionary packet.attributes) (edit : Edit) :
    WellKinded dictionary (edit.apply dictionary packet).attributes := by
  cases edit with
  | add name value =>
    exact wellKinded_settle hpacket fun _ h => wellKinded_of_add hstock hpacket h
  | set name value =>
    exact wellKinded_settle hpacket fun _ h => wellKinded_of_set hstock hpacket h
  | clear => exact wellKinded_nil dictionary
  | remove index => exact hpacket.sublist (List.eraseIdx_sublist _ _)
  | retain keep => exact hpacket.sublist List.filter_sublist
  | encode =>
    -- Sending may put another authenticator into the packet, and no other attributes.
    refine wellKinded_settle hpacket fun next h => ?_
    cases hencode : packet.encode dictionary with
    | error cause =>
      rw [hencode] at h
      cases h
    | ok result =>
      rw [hencode] at h
      cases h
      rw [attributes_of_encode hencode]
      exact hpacket
  | clone => exact hpacket
  | assignCode code => exact hpacket
  | assignIdentifier identifier => exact hpacket
  | assignAuthenticator authenticator => exact hpacket
  | assignSecret secret => exact hpacket

/-- Any number of calls keep the kinds. -/
theorem wellKinded_foldl (hstock : ∀ type, (dictionary.codec type).Stock) (edits : List Edit)
    (hpacket : WellKinded dictionary packet.attributes) :
    WellKinded dictionary (packet.run dictionary edits).attributes := by
  induction edits generalizing packet with
  | nil => exact hpacket
  | cons edit edits ih => exact ih (wellKinded_apply hstock hpacket edit)

/-- What a packet of the right kinds can be refused for. Its values fit their codecs, so a codec can
miss the secret only, and only the codec of hidden passwords does. -/
theorem cause_of_encode {cause : PacketError} (hstock : ∀ type, (dictionary.codec type).Stock)
    (hpacket : WellKinded dictionary packet.attributes)
    (h : packet.encode dictionary = .error cause) :
    (∃ type length, cause = .attributeTooLong type length) ∨
    (∃ length, cause = .packetTooLong length) ∨
    (∃ byte, cause = .unknownCode byte) ∨
    (cause = .codec .missingSecret ∧ packet.secret = [] ∧
      ∃ attr ∈ packet.attributes, dictionary.codec attr.type = .userPassword) := by
  cases encode_eq_error_iff_fault.1 h with
  | @value before after attr records _ hsplit hbefore hfault =>
    have hattr : attr ∈ packet.attributes := by
      rw [hsplit]
      simp
    cases hfault with
    | refused hrefused =>
      -- The kind of the value is right, so it is the secret that is missing.
      obtain ⟨⟨hpassword, hsecret⟩, rfl⟩ :=
        (hstock _).eq_missingSecret_of_encode (hpacket attr hattr) hrefused
      exact .inr (.inr (.inr ⟨rfl, hsecret, attr, hattr, hpassword⟩))
    | tooLong => exact .inl ⟨_, _, rfl⟩
  | length => exact .inr (.inl ⟨_, rfl⟩)
  | code => exact .inr (.inr (.inl ⟨_, rfl⟩))

/-- However a packet comes about, and whatever calls follow, every attribute holds a value of the
kind of its type's codec. So the packet is refused for a length, for its code, or because it holds a
password and no secret. It is never refused for the kind of a value. -/
theorem wellKinded_run (hbuilt : dictionary.BuiltFrom Codec.Stock)
    (hstart : Start dictionary packet) (edits : List Edit) :
    (∀ attr ∈ (packet.run dictionary edits).attributes,
      attr.value.kind = (dictionary.codec attr.type).kind) ∧
    ∀ cause, (packet.run dictionary edits).encode dictionary = .error cause →
      (∃ type length, cause = .attributeTooLong type length) ∨
      (∃ length, cause = .packetTooLong length) ∨
      (∃ byte, cause = .unknownCode byte) ∨
      (cause = .codec .missingSecret ∧ (packet.run dictionary edits).secret = [] ∧
        ∃ attr ∈ (packet.run dictionary edits).attributes,
          dictionary.codec attr.type = .userPassword) := by
  have hwell := wellKinded_foldl hbuilt.stock edits (hstart.wellKinded hbuilt.stock)
  exact ⟨hwell, fun _ => cause_of_encode hbuilt.stock hwell⟩

end

/-- The standard dictionary, with a second type under the name of the first. -/
def sharedName : Dictionary :=
  Dictionary.standard.register 200 "User-Name" .integer

/-- A request as it is read, with an attribute of the first of the two types. -/
def readRequest : Packet where
  code := .accessRequest
  identifier := 7
  authenticator := .zero
  secret := [120, 121]
  raw := some ([1, 7, 0, 26] ++ List.replicate 16 0 ++ [1, 6, 110, 101, 109, 111])
  attributes := [⟨1, .text "nemo"⟩]

/-- Calls under the shared name. The first sets the attribute that is there, the second adds one of
the other type, and the third fails. In the end there is a password and no secret. -/
def sharedEdits : List Edit := [
  .set "User-Name" (.bytes [98, 111, 98]), .add "User-Name" (.text " 7 "),
  .set "User-Name" (.integer 7), .add "User-Password" (.text "pw"), .encode, .assignSecret []]

/-- The packet holds text in the one type and a number in the other, and is refused for its
secret. -/
theorem wellKinded_run_sharedName :
    (readRequest.run sharedName sharedEdits).attributes
        = [⟨1, .text "bob"⟩, ⟨200, .integer 7⟩, ⟨2, .text "pw"⟩] ∧
      (∀ attr ∈ (readRequest.run sharedName sharedEdits).attributes,
        attr.value.kind = (sharedName.codec attr.type).kind) ∧
      (readRequest.run sharedName sharedEdits).encode sharedName
        = .error (.codec .missingSecret) ∧
      ∃ attr ∈ (readRequest.run sharedName sharedEdits).attributes,
        sharedName.codec attr.type = .userPassword := by
  have hbuilt : sharedName.BuiltFrom Codec.Stock :=
    .register 200 "User-Name" Dictionary.builtFrom_standard .integer
  have hread : decode sharedName [120, 121]
      ([1, 7, 0, 26] ++ List.replicate 16 0 ++ [1, 6, 110, 101, 109, 111]) = .ok readRequest := by
    decide +kernel
  have hrefused : (readRequest.run sharedName sharedEdits).encode sharedName
      = .error (.codec .missingSecret) := by
    decide +kernel
  obtain ⟨hkinds, hcauses⟩ := wellKinded_run hbuilt (.decode hread) sharedEdits
  refine ⟨by decide +kernel, hkinds, hrefused, ?_⟩
  rcases hcauses _ hrefused with ⟨_, _, h⟩ | ⟨_, h⟩ | ⟨_, h⟩ | ⟨-, -, hpassword⟩
  · cases h
  · cases h
  · cases h
  · exact hpassword

end Radius.Packet
