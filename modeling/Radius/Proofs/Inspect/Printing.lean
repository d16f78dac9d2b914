import Radius.Digest.Md5
import Radius.Proofs.Codec.Rendering
import Radius.Proofs.Dictionary.Standard
import Radius.Proofs.Hex
import Radius.Proofs.Inspect
import Radius.Proofs.Packet.Run
import Radius.Proofs.Server.Admission

/-!
# `Radius.Proofs.Inspect.Printing`: how many lines the attributes take

An attribute is printed as one line, but its value may break the line. Of the values that a reader
hands out only text can: octets are printed as digits, and numbers and addresses are written without
blanks, of which the line breaks are some (`isBlank_of_mem_describe`). Text is printed as it stands,
and so its line breaks are printed (`mem_describe_iff`).

The printed lines are counted by their line feeds. There is one for each attribute, and one more for
each line feed in its text (`count_attributeLines`). So a text can bring lines with it that look
like those of other attributes (`linesText_userName`).
-/

set_option autoImplicit false

namespace Radius

/-- The characters that break a line. -/
def Text.lineBreaks : List Char :=
  ['\n', '\x0b', '\x0c', '\r', '\u0085', '\u2028', '\u2029']

/-- Line breaks are blanks. -/
theorem Text.isBlank_of_mem_lineBreaks {c : Char} (h : c ∈ lineBreaks) : isBlank c = true := by
  have hblank : lineBreaks.all isBlank = true := rfl
  exact List.all_eq_true.1 hblank c h

/-- The byte of a line feed is among the bytes of a text that has one. -/
theorem Text.mem_bytes_of_lineFeed {text : String} (h : '\n' ∈ text.toList) :
    10 ∈ text.toByteArray.data.toList := by
  have hbytes : text.toByteArray.data.toList = text.toList.flatMap String.utf8EncodeChar := by
    rw [← String.utf8Encode_toList, List.utf8Encode, List.data_toByteArray]
  rw [hbytes]
  exact List.mem_flatMap.2 ⟨_, h, by decide⟩

/-- No standard attribute has a line feed in its name. -/
theorem AttributeType.lineFeed_not_mem_name {type : AttributeType} (h : type ∈ all) :
    '\n' ∉ type.name.toList := by
  -- The bytes of a name are at hand, while its characters would have to be decoded first.
  have hnames : ∀ other ∈ all, 10 ∉ other.name.toByteArray.data.toList := by decide +kernel
  exact fun hmem => hnames type h (Text.mem_bytes_of_lineFeed hmem)

/-- What is printed of a value: text as it stands, octets in hexadecimal, a number in decimal and an
address in its dotted form. -/
def Value.printed : Value → String
  | .text content => content
  | .bytes content => "0x" ++ Hex.encode content
  | .integer content => Decimal.text content.toNat
  | .address content => content.text

/-- The line feeds in a value, which are those of its text. -/
def Value.lineFeeds : Value → Nat
  | .text content => content.toList.count '\n'
  | _ => 0

/-- A value has no line feed unless it is text that has one. -/
theorem Value.lineFeeds_eq_zero_iff {value : Value} :
    value.lineFeeds = 0 ↔ ∀ content, value = .text content → '\n' ∉ content.toList := by
  cases value with
  | text content => simp [lineFeeds, List.count_eq_zero]
  | _ => simp [lineFeeds]

namespace Inspect

open Packet

/-! ### Printed lines -/

/-- Lines are printed with a line feed each, beside those that they have themselves. -/
theorem count_linesText (lines : List String) :
    (linesText lines).toList.count '\n'
      = lines.length + (lines.map fun line => line.toList.count '\n').sum := by
  induction lines with
  | nil => rfl
  | cons line lines ih =>
    have hend : "\n".toList.count '\n' = 1 := rfl
    rw [linesText_cons, String.toList_append, String.toList_append, List.count_append,
      List.count_append, hend, ih, List.length_cons, List.map_cons, List.sum_cons]
    omega

section
variable [Digest] {dictionary : Dictionary} {attr : Attribute} {attributes : List Attribute}
  {c : Char}

/-! ### The description of a value -/

/-- A value of its codec's kind is described by its kind alone. -/
theorem describe_of_kind (hcodec : (dictionary.codec attr.type).Stock)
    (hkind : attr.value.kind = (dictionary.codec attr.type).kind) :
    describe dictionary attr = attr.value.printed := by
  unfold describe
  rw [Dictionary.render_of_kind hcodec hkind]
  cases attr.value with
  | _ => rfl

/-- Text is described as it stands. -/
theorem describe_text (hcodec : (dictionary.codec attr.type).Stock)
    (hkind : attr.value.kind = (dictionary.codec attr.type).kind) {content : String}
    (h : attr.value = .text content) : describe dictionary attr = content := by
  rw [describe_of_kind hcodec hkind, h]
  rfl

/-- No other value is described with a blank. -/
theorem isBlank_of_mem_describe (hcodec : (dictionary.codec attr.type).Stock)
    (hkind : attr.value.kind = (dictionary.codec attr.type).kind)
    (h : ∀ content, attr.value ≠ .text content) (hc : c ∈ (describe dictionary attr).toList) :
    Text.isBlank c = false := by
  rw [describe_of_kind hcodec hkind] at hc
  cases hvalue : attr.value with
  | text content => exact absurd hvalue (h content)
  | bytes content =>
    rw [hvalue] at hc
    rcases List.mem_append.1 (String.toList_append ▸ hc) with hfront | hdigits
    · have hplain : "0x".toList.all (fun b => !Text.isBlank b) = true := rfl
      simpa using List.all_eq_true.1 hplain c hfront
    · rw [Hex.encode, String.toList_ofList] at hdigits
      obtain ⟨n, rfl⟩ := Hex.exists_hexDigit_of_mem hdigits
      exact (Hex.hexDigit_plain n).2.1
  | integer number =>
    rw [hvalue] at hc
    exact Decimal.isBlank_of_mem_digits (String.toList_ofList ▸ hc)
  | address address =>
    rw [hvalue] at hc
    exact V4.isBlank_of_mem_written (String.toList_ofList ▸ hc)

/-- A value is described with a line break exactly if it is text with that line break. -/
theorem mem_describe_iff (hcodec : (dictionary.codec attr.type).Stock)
    (hkind : attr.value.kind = (dictionary.codec attr.type).kind) (hc : c ∈ Text.lineBreaks) :
    c ∈ (describe dictionary attr).toList ↔
      ∃ content, attr.value = .text content ∧ c ∈ content.toList := by
  constructor
  · intro hmem
    by_cases htext : ∃ content, attr.value = .text content
    · obtain ⟨content, hvalue⟩ := htext
      rw [describe_text hcodec hkind hvalue] at hmem
      exact ⟨content, hvalue, hmem⟩
    · have hplain := isBlank_of_mem_describe hcodec hkind (not_exists.1 htext) hmem
      rw [Text.isBlank_of_mem_lineBreaks hc] at hplain
      cases hplain
  · rintro ⟨content, hvalue, hmem⟩
    rw [describe_text hcodec hkind hvalue]
    exact hmem

/-- So many line feeds there are in a description. -/
theorem count_describe (hcodec : (dictionary.codec attr.type).Stock)
    (hkind : attr.value.kind = (dictionary.codec attr.type).kind) :
    (describe dictionary attr).toList.count '\n' = attr.value.lineFeeds := by
  cases hvalue : attr.value with
  | text content =>
    rw [describe_text hcodec hkind hvalue]
    rfl
  | _ =>
    refine List.count_eq_zero.2 ?_
    rw [mem_describe_iff hcodec hkind (by decide), hvalue]
    rintro ⟨content, hother, -⟩
    cases hother

/-! ### The lines of the attributes -/

/-- Before the description of a standard attribute there is no line feed. -/
theorem count_attributeLine (hcodec : (Dictionary.standard.codec attr.type).Stock)
    (hkind : attr.value.kind = (Dictionary.standard.codec attr.type).kind) :
    (attributeLine .standard attr).toList.count '\n' = attr.value.lineFeeds := by
  have hname : ((Dictionary.standard.name? attr.type).getD "Unknown").toList.count '\n' = 0 := by
    refine List.count_eq_zero.2 ?_
    cases hfound : Dictionary.standard.name? attr.type with
    | none => decide
    | some name =>
      obtain ⟨type, htype, -, rfl⟩ := Dictionary.exists_of_name?_standard hfound
      exact AttributeType.lineFeed_not_mem_name htype
  have hnumber : (Decimal.text attr.type.toNat).toList.count '\n' = 0 := by
    refine List.count_eq_zero.2 fun hmem => ?_
    have hplain := Decimal.isBlank_of_mem_digits (String.toList_ofList ▸ hmem)
    exact absurd hplain (by decide)
  have hindent : "  ".toList.count '\n' = 0 := rfl
  have hopen : " (".toList.count '\n' = 0 := rfl
  have hclose : ") = ".toList.count '\n' = 0 := rfl
  simp only [attributeLine, String.toList_append, List.count_append, hindent, hopen, hclose, hname,
    hnumber, count_describe hcodec hkind, Nat.zero_add]

/-- The attributes take a line each, and one more for each line feed in their texts. -/
theorem count_attributeLines (hstock : ∀ type, (Dictionary.standard.codec type).Stock)
    (h : WellKinded .standard attributes) :
    (linesText (attributes.map (attributeLine .standard))).toList.count '\n'
      = attributes.length + (attributes.map fun attr => attr.value.lineFeeds).sum := by
  have hcounts : attributes.map (fun attr => (attributeLine .standard attr).toList.count '\n')
      = attributes.map fun attr => attr.value.lineFeeds :=
    List.map_congr_left fun attr hattr => count_attributeLine (hstock _) (h attr hattr)
  simp only [count_linesText, List.length_map, List.map_map, Function.comp_def, hcounts]

/-! ### Forged lines -/

/-- The line of a user name holds its text. -/
theorem attributeLine_userName (name : String) :
    attributeLine .standard ⟨1, .text name⟩ = "  User-Name (1) = " ++ name := by
  have huser : (⟨1, "User-Name", .text⟩ : AttributeType) ∈ AttributeType.all := by decide
  have hline := attributeLine_standard huser (.text name)
  have hcodec := Dictionary.codec_standard huser
  dsimp only at hline hcodec
  have hstock : ∀ type, (Dictionary.standard.codec type).Stock :=
    Dictionary.builtFrom_standard.stock
  have hkind : (Value.text name).kind = (Dictionary.standard.codec 1).kind := by
    rw [hcodec]
    rfl
  have hdescribe : describe .standard ⟨1, .text name⟩ = name :=
    @describe_text _ .standard ⟨1, .text name⟩ (hstock 1) hkind name rfl
  have hnumber : Decimal.text 1 = "1" := Decimal.text_of_lt (by decide)
  have hfront : "  " ++ "User-Name" ++ " (" ++ "1" ++ ") = " = "  User-Name (1) = " := rfl
  rw [hline, hdescribe, ← hfront, ← hnumber]
  rfl

/-- So a user name can bring any line with it, also one that looks like that of another
attribute. -/
theorem linesText_userName (name line : String) :
    linesText [attributeLine .standard ⟨1, .text (name ++ "\n" ++ line)⟩]
      = linesText [attributeLine .standard ⟨1, .text name⟩, line] := by
  simp only [attributeLine_userName, linesText_cons, String.append_assoc]

/-! ### Received packets -/

/-- A packet that is received is well-kinded. -/
theorem wellKinded_of_receive {server : Server} {data : List UInt8} {source : Address}
    {packet : Packet} (h : (server.receive data source).1 = .ok packet)
    (hstock : ∀ type, (server.dictionary.codec type).Stock)
    (hreader : server.reader = decode ∨ server.reader = decodeStrict) :
    WellKinded server.dictionary packet.attributes := by
  obtain ⟨-, hread⟩ := Server.receive_eq_ok_iff.1 h
  rcases hreader with hreader | hreader
  · exact Start.wellKinded hstock (.decode (hreader ▸ hread))
  · exact Start.wellKinded hstock (.decodeStrict (hreader ▸ hread))

/-- What the attributes of a received packet are printed as, with the dictionary of the standard
attributes.

* Text is described as it stands. Every other value is described without line breaks, so a
  description has a line break exactly if the value is text with that line break.
* The attributes take a line each, and one more for each line feed in their texts. So there is
  exactly one line for each attribute if and only if no text of the packet has a line feed. -/
theorem attributeLines_of_receive {server : Server} {data : List UInt8} {source : Address}
    {packet : Packet} (hdictionary : server.dictionary = .standard)
    (hreader : server.reader = decode ∨ server.reader = decodeStrict)
    (hreceived : (server.receive data source).1 = .ok packet) :
    (∀ attr ∈ packet.attributes,
      (∀ content, attr.value = .text content → describe .standard attr = content) ∧
      ∀ c ∈ Text.lineBreaks, c ∈ (describe .standard attr).toList ↔
        ∃ content, attr.value = .text content ∧ c ∈ content.toList) ∧
    (linesText (packet.attributes.map (attributeLine .standard))).toList.count '\n'
      = packet.attributes.length
        + (packet.attributes.map fun attr => attr.value.lineFeeds).sum ∧
    ((linesText (packet.attributes.map (attributeLine .standard))).toList.count '\n'
        = packet.attributes.length ↔
      ∀ attr ∈ packet.attributes, ∀ content, attr.value = .text content →
        '\n' ∉ content.toList) := by
  have hstock : ∀ type, (Dictionary.standard.codec type).Stock :=
    Dictionary.builtFrom_standard.stock
  have hkinds : WellKinded .standard packet.attributes := by
    rw [← hdictionary] at hstock ⊢
    exact wellKinded_of_receive hreceived hstock hreader
  have hcount := count_attributeLines hstock hkinds
  refine ⟨?_, hcount, ?_⟩
  · intro attr hattr
    exact ⟨fun content => describe_text (hstock _) (hkinds attr hattr),
      fun c => mem_describe_iff (hstock _) (hkinds attr hattr)⟩
  · rw [hcount, Nat.add_eq_left, List.sum_eq_zero_iff_forall_eq_nat, List.forall_mem_map]
    refine forall₂_congr fun attr _ => ?_
    rw [Value.lineFeeds_eq_zero_iff]

end

/-- A user name that goes on after a line feed like the line of another user name. -/
def forgedName : String :=
  "alice\n  User-Name (1) = root"

/-- A request with this name. -/
def forgedRequest : List UInt8 :=
  [1, 7, 0, 50] ++ List.replicate 16 0 ++ [1, 30] ++ Utf8.ofString forgedName

/-- What is read from it. -/
def forgedRead : Packet where
  code := .accessRequest
  identifier := 7
  authenticator := .zero
  secret := Utf8.ofString "testing123"
  raw := some forgedRequest
  attributes := [⟨1, .text forgedName⟩]

/-- A server without a configuration file takes the request. -/
theorem receive_forgedRequest :
    ((Server.ofConfig .standard {}).receive forgedRequest defaultSource).1 = .ok forgedRead := by
  decide +kernel

/-- The one attribute of the request is printed as two lines, which are those of two attributes. -/
theorem attributeLines_of_receive_forged :
    (linesText (forgedRead.attributes.map (attributeLine .standard))).toList.count '\n' = 2 ∧
      linesText (forgedRead.attributes.map (attributeLine .standard))
        = linesText ([⟨1, .text "alice"⟩, ⟨1, .text "root"⟩].map (attributeLine .standard)) := by
  obtain ⟨-, hcount, -⟩ := attributeLines_of_receive rfl (.inl rfl) receive_forgedRequest
  refine ⟨hcount, ?_⟩
  have hname : forgedName = "alice" ++ "\n" ++ attributeLine .standard ⟨1, .text "root"⟩ := by
    rw [attributeLine_userName]
    rfl
  show linesText [attributeLine .standard ⟨1, .text forgedName⟩] = _
  rw [hname, linesText_userName]
  rfl

/-- A value of a received packet can break its line, and the attributes can take more lines than
there are attributes. -/
theorem not_oneLine_of_receive :
    (¬ ∀ (config : Config) (data : List UInt8) (source : Address) (packet : Packet),
      ((Server.ofConfig .standard config).receive data source).1 = .ok packet →
      ∀ attr ∈ packet.attributes, ∀ c ∈ Text.lineBreaks,
        c ∉ (describe .standard attr).toList) ∧
    ¬ ∀ (config : Config) (data : List UInt8) (source : Address) (packet : Packet),
      ((Server.ofConfig .standard config).receive data source).1 = .ok packet →
      (linesText (packet.attributes.map (attributeLine .standard))).toList.count '\n'
        = packet.attributes.length := by
  have hstock : ∀ type, (Dictionary.standard.codec type).Stock :=
    Dictionary.builtFrom_standard.stock
  have hkinds : WellKinded .standard forgedRead.attributes :=
    wellKinded_of_receive receive_forgedRequest hstock (.inl rfl)
  constructor
  · intro h
    have hmem : ⟨1, .text forgedName⟩ ∈ forgedRead.attributes := List.mem_singleton_self _
    have hbreaks : '\n' ∈ (describe .standard ⟨1, .text forgedName⟩).toList :=
      (mem_describe_iff (hstock 1) (hkinds _ hmem) (by decide)).2 ⟨forgedName, rfl, by decide⟩
    exact h {} _ _ _ receive_forgedRequest _ hmem '\n' (by decide) hbreaks
  · intro h
    have hlines := h {} _ _ _ receive_forgedRequest
    rw [count_attributeLines hstock hkinds] at hlines
    exact absurd hlines (by decide)

end Inspect

end Radius
