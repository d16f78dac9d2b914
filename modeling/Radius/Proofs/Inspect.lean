import Radius.Inspect
import Radius.Proofs.Dictionary.Standard
import Radius.Proofs.Hex

/-!
# `Radius.Proofs.Inspect`: what a run prints

A run of the inspector goes through the command line, the configuration and the text of the packet
before it reads anything. `Explains` says that all three stages let it pass, with which options,
configuration and bytes; any bytes can be handed over in that way (`explains_encode`). Then its
outcome is that of `explain` (`outcome_of_explains`). If the server takes the bytes as a packet, the
run `Accepts` it and prints the lines of the packet (`output_of_accepts`).

Lines are printed one after the other, and a line can hold line ends of its own, so different lines
can be printed as the same text. If the lines have the same lengths they cannot (`linesText_inj`).
-/

set_option autoImplicit false

namespace Radius.Inspect

/-- With these arguments and files the inspector explains a packet: the arguments are options that
ask for nothing else, the configuration is loaded and valid, and the text of the packet spells
bytes. -/
structure Explains (arguments : List String) (folder : Folder) (options : Options)
    (config : Config) (data : List UInt8) : Prop where
  read : Options.read arguments = .ok options
  noSample : options.init = false
  noCheck : options.validate = false
  loaded : (loadConfig options folder.read).map options.override = .ok config
  valid : config.problem? = none
  packet : ∃ text, options.packet = some text ∧ Hex.decode (Text.trimString text) = .ok data

/-- With these arguments and files the inspector explains bytes that come from a source, and the
server of its configuration takes them as the packet. -/
structure Accepts [Digest] (arguments : List String) (folder : Folder) (config : Config)
    (source : Address) (data : List UInt8) (packet : Packet) : Prop where
  explains : ∃ options : Options, options.origin = source ∧
    Explains arguments folder options config data
  taken : ((Server.ofConfig .standard config).receive data source).1 = .ok packet

/-! ### From the arguments to the packet -/

/-- Bytes in hexadecimal are no option. -/
theorem argument_encode (data : List UInt8) : argument (Hex.encode data).toList = .plain := by
  rw [Hex.encode, String.toList_ofList]
  cases hdigits : Hex.digits data with
  | nil => rfl
  | cons c rest =>
    have hmem : c ∈ Hex.digits data := by
      rw [hdigits]
      exact List.mem_cons_self
    obtain ⟨n, rfl⟩ := Hex.exists_hexDigit_of_mem hmem
    have hhyphen := (Hex.hexDigit_plain n).2.2
    unfold argument
    simp [hhyphen]

/-- Whatever bytes a packet has, their hexadecimal text alone makes the inspector explain them with
the default configuration. -/
theorem explains_encode (folder : Folder) (data : List UInt8) :
    Explains [Hex.encode data] folder { packet := some (Hex.encode data) } {} data where
  read := by
    rw [Options.read, Options.readArguments, argument_encode]
    rfl
  noSample := rfl
  noCheck := rfl
  loaded := rfl
  valid := by decide
  packet := ⟨_, rfl, by rw [Hex.trimString_encode, Hex.decode_encode]⟩

section
variable [Digest] {arguments : List String} {folder : Folder} {options : Options}
  {config : Config} {source : Address} {data : List UInt8} {packet : Packet}

/-- A run that asks for a packet starts with the configuration. -/
theorem run_of_read (hread : Options.read arguments = .ok options) (hinit : options.init = false)
    (setting? : Option String) :
    run arguments folder setting?
      = (report options (loadConfig options folder.read) setting?, folder) := by
  unfold run
  rw [hread]
  dsimp only
  rw [hinit]
  rfl

/-- The outcome of a run that explains a packet is that of the explanation. -/
theorem outcome_of_explains (h : Explains arguments folder options config data)
    (setting? : Option String) :
    (run arguments folder setting?).1.exit = (explain config options.origin data).exit ∧
      (run arguments folder setting?).1.output
        = linesText (explain config options.origin data).lines := by
  obtain ⟨text, htext, hdata⟩ := h.packet
  have hloaded := h.loaded
  rw [run_of_read h.read h.noSample]
  cases hload : loadConfig options folder.read with
  | error cause =>
    rw [hload] at hloaded
    cases hloaded
  | ok loaded =>
    rw [hload] at hloaded
    cases hloaded
    simp [report, h.valid, h.noCheck, explainText, htext, hdata]

/-- The explanation of a packet that the server takes is made of its lines. -/
theorem explain_of_receive
    (h : ((Server.ofConfig .standard config).receive data source).1 = .ok packet) :
    (explain config source data).exit = 0 ∧
      (explain config source data).lines = packetLines .standard packet data.length := by
  unfold explain
  cases hreceive : (Server.ofConfig .standard config).receive data source with
  | mk result events =>
    rw [hreceive] at h
    cases h
    dsimp only
    rw [hreceive]
    exact ⟨rfl, rfl⟩

/-- The output of a run whose packet is taken. -/
theorem output_of_accepts (h : Accepts arguments folder config source data packet)
    (setting? : Option String) :
    (run arguments folder setting?).1.output
      = linesText (packetLines .standard packet data.length) := by
  obtain ⟨options, rfl, hexplains⟩ := h.explains
  rw [(outcome_of_explains hexplains setting?).2, (explain_of_receive h.taken).2]

end

/-! ### The lines of a packet -/

/-- The lines before those of the attributes. -/
def headerLines (packet : Packet) (length : Nat) : List String :=
  ["Code:          " ++ packet.code.name ++ " (" ++ Decimal.text packet.code.toByte.toNat ++ ")",
    "Identifier:    " ++ Decimal.text packet.identifier.toNat,
    "Length:        " ++ Decimal.text length,
    "Authenticator: " ++ Hex.encode packet.authenticator.bytes,
    "Attributes:"]

/-- The line after them, if the packet has a user and a password. -/
def credentialsLines (dictionary : Dictionary) (packet : Packet) : List String :=
  match packet.credentials? dictionary with
  | some (user, password) => [credentialsLine user password]
  | none => []

/-- The lines of a packet are those three parts, one after the other. -/
theorem packetLines_eq (dictionary : Dictionary) (packet : Packet) (length : Nat) :
    packetLines dictionary packet length
      = headerLines packet length ++ packet.attributes.map (attributeLine dictionary)
        ++ credentialsLines dictionary packet :=
  rfl

/-- The line of a standard attribute begins with its name and number. -/
theorem attributeLine_standard [Digest] {type : AttributeType} (h : type ∈ AttributeType.all)
    (value : Value) :
    attributeLine .standard ⟨type.number, value⟩
      = "  " ++ type.name ++ " (" ++ Decimal.text type.number.toNat ++ ") = "
        ++ describe .standard ⟨type.number, value⟩ := by
  rw [attributeLine, Dictionary.name?_standard h]
  rfl

/-! ### From the lines to the output -/

/-- The first line is printed first, with a line feed after it. -/
theorem linesText_cons (line : String) (lines : List String) :
    linesText (line :: lines) = line ++ "\n" ++ linesText lines := by
  rw [linesText, List.map_cons, String.join_cons]
  rfl

/-- Lines of the same lengths are printed as the same text only if they are the same. -/
theorem linesText_inj {lines others : List String}
    (h : lines.map String.length = others.map String.length) :
    linesText lines = linesText others ↔ lines = others := by
  refine ⟨fun hsame => ?_, fun hsame => hsame ▸ rfl⟩
  -- By the lines: the first ends at the same place of the text as the other first.
  induction lines generalizing others with
  | nil =>
    symm
    simpa using h
  | cons line lines ih =>
    cases others with
    | nil => cases h
    | cons other others =>
      rw [List.map_cons, List.map_cons, List.cons.injEq] at h
      rw [linesText_cons, linesText_cons, ← String.toList_inj] at hsame
      simp only [String.toList_append, List.append_assoc] at hsame
      obtain ⟨hfirst, hrest⟩ := List.append_inj hsame h.1
      rw [String.toList_inj] at hfirst
      have hothers := ih h.2 (String.toList_inj.1 (List.append_cancel_left hrest))
      rw [hfirst, hothers]

end Radius.Inspect
