import Radius.Digest.Md5
import Radius.Proofs.Codec.Rendering
import Radius.Proofs.Dictionary.Standard
import Radius.Proofs.Packet.Access

/-!
# `Radius.Proofs.Packet.WriteBack`: writing back the text that was read

`Packet.text` shows the first attribute of a name, and `Packet.set` puts a value into it. Both find
the attribute in the same way, but then one goes through the rendering of the codec and the other
through its normalization. Where the value has its codec's kind the two undo each other
(`Codec.Stock.normalize_shown`), and so the packet is as it was (`set_text_of_firstNamed`).

Octets that spell no text are the exception. They are shown as a text that they do not spell, and
the bytes of this text take their place (`set_text_of_octets`). `set_text_outcome` has both.
-/

set_option autoImplicit false

namespace Radius.Packet

section
variable [Digest] {dictionary : Dictionary} {packet : Packet} {name : String}
  {before after : List Attribute} {attr : Attribute} {stored : Value} {bytes : List UInt8}

/-- The text of a name is that of the first attribute, by the kind of its value. -/
theorem text_of_firstNamed (hstock : (dictionary.codec attr.type).Stock)
    (h : FirstNamed dictionary name packet.attributes before attr after)
    (hkind : attr.value.kind = (dictionary.codec attr.type).kind) :
    packet.text dictionary name = attr.value.shown := by
  rw [text, find?_of_firstNamed h]
  exact Dictionary.render_of_kind hstock hkind

omit [Digest] in
/-- A value that is set takes the place of the first of its name, as the codec of that attribute
normalizes it. -/
theorem set_of_normalize {value : Value} {normalize : Value → Except CodecError Value}
    (h : FirstNamed dictionary name packet.attributes before attr after)
    (hnormalize : (dictionary.codec attr.type).normalize? = some normalize)
    (hstored : normalize value = .ok stored) :
    packet.set dictionary name value
      = .ok { packet with attributes := before ++ { attr with value := stored } :: after } := by
  rw [set_of_firstNamed h, replacement, hnormalize]
  dsimp only
  rw [hstored]
  rfl

/-- If the value is made again of its text, writing the text back changes nothing. -/
theorem set_text_of_firstNamed (hstock : (dictionary.codec attr.type).Stock)
    (h : FirstNamed dictionary name packet.attributes before attr after)
    (hkind : attr.value.kind = (dictionary.codec attr.type).kind)
    (htext : ∀ bytes, attr.value = .bytes bytes → ∃ text, bytes = Utf8.ofString text) :
    packet.set dictionary name (.text (packet.text dictionary name)) = .ok packet := by
  obtain ⟨normalize, hnormalize, -⟩ := hstock.exists_normalize
  have hstored := hstock.normalize_shown hnormalize hkind htext
  rw [text_of_firstNamed hstock h hkind, set_of_normalize h hnormalize hstored]
  -- The value stands in its own place.
  rw [← h.split]

/-- If octets are shown, the bytes of their text take their place. -/
theorem set_text_of_octets (hstock : (dictionary.codec attr.type).Stock)
    (h : FirstNamed dictionary name packet.attributes before attr after)
    (hkind : attr.value.kind = (dictionary.codec attr.type).kind)
    (hbytes : attr.value = .bytes bytes) (text : String) :
    packet.set dictionary name (.text text)
      = .ok { packet with attributes :=
          before ++ { attr with value := .bytes (Utf8.ofString text) } :: after } := by
  obtain ⟨normalize, hnormalize, -⟩ := hstock.exists_normalize
  rw [hbytes] at hkind
  exact set_of_normalize h hnormalize (hstock.normalize_text_octets hnormalize hkind.symm text)

/-- What becomes of a packet when the text of a name is written back under the name. The dictionary
has the codecs of the library, and the first attribute of the name has a value of its codec's kind.

* The packet is as it was, unless this value is octets that spell no text.
* If it is, the text has U+FFFD for each stretch that spells nothing, and the bytes of the text take
  the place of the octets. They are other bytes. -/
theorem set_text_outcome (hbuilt : dictionary.BuiltFrom Codec.Stock)
    (hfound : packet.find? dictionary name = some attr)
    (hkind : attr.value.kind = (dictionary.codec attr.type).kind) :
    ((∀ bytes, attr.value = .bytes bytes → ∃ text, bytes = Utf8.ofString text) →
      packet.set dictionary name (.text (packet.text dictionary name)) = .ok packet) ∧
    ∀ bytes, attr.value = .bytes bytes → (∀ text, bytes ≠ Utf8.ofString text) →
      Utf8.Lossy bytes (packet.text dictionary name).toList ∧
      ∃ before after other,
        FirstNamed dictionary name packet.attributes before attr after ∧
        other = Utf8.ofString (packet.text dictionary name) ∧ other ≠ bytes ∧
        packet.set dictionary name (.text (packet.text dictionary name))
          = .ok { packet with
              attributes := before ++ { attr with value := .bytes other } :: after } := by
  have hstock := hbuilt.stock attr.type
  obtain ⟨before, after, hfirst⟩ := find?_hasName_eq_some_iff.1 hfound
  refine ⟨set_text_of_firstNamed hstock hfirst hkind, ?_⟩
  intro bytes hbytes hnot
  constructor
  · rw [text_of_firstNamed hstock hfirst hkind, hbytes, Value.shown, String.toList_ofList]
    exact Utf8.lossy_decodeLossy bytes
  · exact ⟨before, after, _, hfirst, rfl, Ne.symm (hnot _),
      set_text_of_octets hstock hfirst hkind hbytes _⟩

end

/-- A request with a port, a state that spells no text, and another port. -/
def statefulRequest : Packet where
  code := .accessRequest
  identifier := 3
  authenticator := .zero
  secret := []
  attributes := [⟨5, .integer 40⟩, ⟨24, .bytes [0x61, 0xFF]⟩, ⟨5, .integer 41⟩]

/-- The first port is written back as it was. The state is not: it has one byte that spells nothing,
and the three bytes of U+FFFD take its place. -/
theorem set_text_outcome_stateful :
    statefulRequest.set .standard "NAS-Port" (.text (statefulRequest.text .standard "NAS-Port"))
        = .ok statefulRequest ∧
      ∃ next, statefulRequest.set .standard "State"
          (.text (statefulRequest.text .standard "State")) = .ok next ∧
        next ≠ statefulRequest := by
  have hport : statefulRequest.find? .standard "NAS-Port" = some ⟨5, .integer 40⟩ := by
    decide +kernel
  have hstate : statefulRequest.find? .standard "State" = some ⟨24, .bytes [0x61, 0xFF]⟩ := by
    decide +kernel
  obtain ⟨hsame, -⟩ := set_text_outcome Dictionary.builtFrom_standard hport (by decide +kernel)
  obtain ⟨-, hother⟩ := set_text_outcome Dictionary.builtFrom_standard hstate (by decide +kernel)
  refine ⟨hsame nofun, ?_⟩
  have hnot : ∀ text, [0x61, 0xFF] ≠ Utf8.ofString text := by
    intro text htext
    have hread := Utf8.toString?_eq_some_iff.2 htext
    rw [show Utf8.toString? [0x61, 0xFF] = none by decide +kernel] at hread
    cases hread
  obtain ⟨-, before, after, other, hfirst, -, hne, hset⟩ := hother _ rfl hnot
  refine ⟨_, hset, ?_⟩
  intro hunchanged
  have hattributes : before ++ ⟨24, .bytes other⟩ :: after = statefulRequest.attributes :=
    congrArg Packet.attributes hunchanged
  rw [hfirst.split] at hattributes
  have hattr := (List.cons.inj (List.append_cancel_left hattributes)).1
  injection hattr with _ hvalue
  exact hne (Value.bytes.inj hvalue)

end Radius.Packet
