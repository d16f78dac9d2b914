import Mathlib.Data.List.Forall2
import Radius.Digest.Md5
import Radius.Proofs.Dictionary.Standard
import Radius.Proofs.Inspect
import Radius.Proofs.Packet.Access

/-!
# `Radius.Proofs.Inspect.Passwords`: what the output tells of a password

A password is printed in two places. The line of the user and the password hides it and tells only
how many characters it has. The line of its attribute holds its text as it is
(`attributeLine_password`). So packets that differ in a password alone have the same lines except
for those of the password attributes, and their outputs are the same only if the passwords are
(`output_eq_iff_attributes`).

Outputs are compared line by line: the passwords have as many characters in both packets, so the
lines end at the same places of the text, and no difference in one is made up for by another.
-/

set_option autoImplicit false

namespace Radius.Inspect

/-- Attributes that are the same but for the text of a password, of as many characters in both. -/
inductive SameOrPassword : Attribute → Attribute → Prop
  | same (attr : Attribute) : SameOrPassword attr attr
  | password (first second : String) (h : first.length = second.length) :
    SameOrPassword ⟨AttributeType.userPassword, .text first⟩
      ⟨AttributeType.userPassword, .text second⟩

/-- Packets that are the same but for the texts of their passwords, each of as many characters in
both. -/
structure AlikeButPasswords (packet other : Packet) : Prop where
  code : packet.code = other.code
  identifier : packet.identifier = other.identifier
  authenticator : packet.authenticator = other.authenticator
  attributes : List.Forall₂ SameOrPassword packet.attributes other.attributes

/-! ### The first attributes of a name -/

section
variable {attr other : Attribute} {attributes others : List Attribute}

/-- They have the same type. -/
theorem SameOrPassword.type_eq (h : SameOrPassword attr other) : attr.type = other.type := by
  cases h with
  | same => rfl
  | password first second hlength => rfl

/-- The first attributes of a name are the same but for the text of a password. -/
theorem find?_of_alike (dictionary : Dictionary) (name : String)
    (h : List.Forall₂ SameOrPassword attributes others) :
    Option.Rel SameOrPassword (attributes.find? (Packet.hasName dictionary name))
      (others.find? (Packet.hasName dictionary name)) := by
  induction h with
  | nil => exact .none
  | @cons attr other attributes others hpair _ ih =>
    -- The two have one type, so the search passes both or stops at both.
    have hnamed : Packet.hasName dictionary name attr = Packet.hasName dictionary name other := by
      rw [Packet.hasName, Packet.hasName, hpair.type_eq]
    rw [List.find?_cons, List.find?_cons, ← hnamed]
    cases Packet.hasName dictionary name attr with
    | true => exact .some hpair
    | false => exact ih

/-- The values of a name are the same, or they are passwords. -/
theorem value?_of_alike {dictionary : Dictionary} {packet other : Packet}
    (h : AlikeButPasswords packet other) (name : String) :
    packet.value? dictionary name = other.value? dictionary name ∨
      dictionary.name? AttributeType.userPassword = some name ∧
        ∃ first second : String, first.length = second.length ∧
          packet.value? dictionary name = some (.text first) ∧
          other.value? dictionary name = some (.text second) := by
  have hfound := find?_of_alike dictionary name h.attributes
  rw [Packet.value?, Packet.value?, Packet.find?, Packet.find?]
  generalize hfirst : packet.attributes.find? (Packet.hasName dictionary name) = first? at hfound
  generalize other.attributes.find? (Packet.hasName dictionary name) = second? at hfound
  cases hfound with
  | none => exact .inl rfl
  | some hpair =>
    cases hpair with
    | same => exact .inl rfl
    | password first second hlength =>
      have hname := Packet.hasName_iff.1 (List.find?_some hfirst)
      exact .inr ⟨hname, first, second, hlength, rfl, rfl⟩

end

/-! ### The line of an attribute -/

section
variable [Digest] {attr other : Attribute} {attributes others : List Attribute}

/-- A password is described by its text. -/
theorem describe_password (password : String) :
    describe .standard ⟨AttributeType.userPassword, .text password⟩ = password := by
  rw [describe, Dictionary.render, Dictionary.codec_userPassword]
  rfl

/-- The line of a password holds its text. -/
theorem attributeLine_password (password : String) :
    attributeLine .standard ⟨AttributeType.userPassword, .text password⟩
      = "  User-Password (2) = " ++ password := by
  have hline := attributeLine_standard Dictionary.userPassword_mem (.text password)
  dsimp only at hline
  have hnumber : Decimal.text 2 = "2" := Decimal.text_of_lt (by decide)
  have hfront : "  " ++ "User-Password" ++ " (" ++ "2" ++ ") = " = "  User-Password (2) = " := rfl
  rw [hline, describe_password, ← hfront, ← hnumber]
  rfl

/-- The lines have the same lengths. -/
theorem length_attributeLine_of_alike (h : SameOrPassword attr other) :
    (attributeLine .standard attr).length = (attributeLine .standard other).length := by
  cases h with
  | same => rfl
  | password first second hlength =>
    rw [attributeLine_password, attributeLine_password, String.length_append,
      String.length_append, hlength]

/-- The lines are the same only if the attributes are. -/
theorem attributeLine_eq_iff_of_alike (h : SameOrPassword attr other) :
    attributeLine .standard attr = attributeLine .standard other ↔ attr = other := by
  cases h with
  | same => exact iff_of_true rfl rfl
  | password first second hlength =>
    rw [attributeLine_password, attributeLine_password, String.append_right_inj]
    simp

/-- So have the lines of all attributes. -/
theorem lengths_of_alike (h : List.Forall₂ SameOrPassword attributes others) :
    (attributes.map (attributeLine .standard)).map String.length
      = (others.map (attributeLine .standard)).map String.length := by
  induction h with
  | nil => rfl
  | cons hpair _ ih =>
    simp only [List.map_cons, length_attributeLine_of_alike hpair, ih]

/-- And all lines are the same only if all attributes are. -/
theorem lines_eq_iff_of_alike (h : List.Forall₂ SameOrPassword attributes others) :
    attributes.map (attributeLine .standard) = others.map (attributeLine .standard) ↔
      attributes = others := by
  induction h with
  | nil => simp
  | cons hpair _ ih =>
    rw [List.map_cons, List.map_cons, List.cons.injEq, List.cons.injEq, ih,
      attributeLine_eq_iff_of_alike hpair]

end

/-! ### The lines of a packet -/

/-- No attribute goes into the lines before those of the attributes. -/
theorem headerLines_of_alike {packet other : Packet} (h : AlikeButPasswords packet other)
    (length : Nat) : headerLines packet length = headerLines other length := by
  rw [headerLines, headerLines, h.code, h.identifier, h.authenticator]

/-- The line of a user and a password tells only how many characters the password has. -/
theorem credentialsLine_of_length {first second : String} (h : first.length = second.length)
    (user : String) : credentialsLine user first = credentialsLine user second := by
  have hmasked : masked first = masked second := by
    rw [masked, masked, h]
  unfold credentialsLine
  rw [hmasked]

section
variable [Digest] {packet other : Packet}

/-- So the lines after the attributes are the same. The first user name is the same in both
packets, for it is no password. -/
theorem credentialsLines_of_alike (h : AlikeButPasswords packet other) :
    credentialsLines .standard packet = credentialsLines .standard other := by
  have huser : packet.value? .standard "User-Name" = other.value? .standard "User-Name" := by
    rcases value?_of_alike h "User-Name" with hsame | ⟨hname, -⟩
    · exact hsame
    · rw [Dictionary.name?_userPassword] at hname
      exact absurd hname (by decide)
  rw [credentialsLines, credentialsLines, Packet.credentials?, Packet.credentials?, h.code, huser]
  rcases value?_of_alike h "User-Password" with
    hsame | ⟨-, first, second, hlength, hfirst, hsecond⟩
  · rw [hsame]
  · rw [hfirst, hsecond]
    by_cases hcode : other.code = .accessRequest
    · rw [if_pos hcode, if_pos hcode]
      -- There is a line only if the user name is text, and then it hides the password.
      rcases other.value? .standard "User-Name" with _ | (user | _ | _ | _)
      case some.text => exact congrArg (fun line => [line]) (credentialsLine_of_length hlength user)
      all_goals rfl
    · rw [if_neg hcode, if_neg hcode]

/-- The lines are printed as the same text only if the attributes are the same. -/
theorem linesText_eq_iff_of_alike (h : AlikeButPasswords packet other) (length : Nat) :
    linesText (packetLines .standard packet length)
        = linesText (packetLines .standard other length) ↔
      packet.attributes = other.attributes := by
  have hlengths := lengths_of_alike h.attributes
  rw [packetLines_eq, packetLines_eq, headerLines_of_alike h, credentialsLines_of_alike h,
    linesText_inj, List.append_left_inj, List.append_right_inj, lines_eq_iff_of_alike h.attributes]
  simp only [List.map_append, hlengths]

end

/-! ### Two runs -/

/-- Two packets that the inspector takes with the same configuration and source, of the same length
and the same but for the texts of their passwords, are printed with the same lines around those
of their attributes: only how many characters a password has is told there. But the line of a
password attribute holds its text, and so the outputs are the same only if the passwords are. -/
theorem output_eq_iff_attributes [Digest] {arguments others : List String}
    {folder otherFolder : Folder} {config : Config} {source : Address}
    {data otherData : List UInt8} {packet other : Packet}
    (hrun : Accepts arguments folder config source data packet)
    (hother : Accepts others otherFolder config source otherData other)
    (hlength : data.length = otherData.length) (halike : AlikeButPasswords packet other)
    (setting? otherSetting? : Option String) :
    (∃ front back : List String,
      (run arguments folder setting?).1.output
          = linesText (front ++ packet.attributes.map (attributeLine .standard) ++ back) ∧
      (run others otherFolder otherSetting?).1.output
          = linesText (front ++ other.attributes.map (attributeLine .standard) ++ back)) ∧
    (∀ password : String,
      attributeLine .standard ⟨AttributeType.userPassword, .text password⟩
        = "  User-Password (2) = " ++ password) ∧
    ((run arguments folder setting?).1.output = (run others otherFolder otherSetting?).1.output ↔
      packet.attributes = other.attributes) := by
  rw [output_of_accepts hrun, output_of_accepts hother, ← hlength]
  refine ⟨⟨_, _, by rw [packetLines_eq], ?_⟩, attributeLine_password,
    linesText_eq_iff_of_alike halike data.length⟩
  rw [packetLines_eq, headerLines_of_alike halike, credentialsLines_of_alike halike]

/-- A request of alice with a password, hidden with the default secret. -/
def requestWith (password : String) : List UInt8 :=
  [1, 7, 0, 45] ++ List.replicate 16 0 ++ [1, 7] ++ Utf8.ofString "alice" ++ [2, 18]
    ++ Password.hide (Utf8.ofString password) (Utf8.ofString "testing123") .zero

/-- What is read from it. -/
def readWith (password : String) : Packet where
  code := .accessRequest
  identifier := 7
  authenticator := .zero
  secret := Utf8.ofString "testing123"
  raw := some (requestWith password)
  attributes := [⟨1, .text "alice"⟩, ⟨AttributeType.userPassword, .text password⟩]

/-- The inspector takes the request with one password. -/
theorem accepts_requestWith_pw :
    Accepts [Hex.encode (requestWith "pw")] {} {} defaultSource (requestWith "pw")
      (readWith "pw") where
  explains := ⟨_, rfl, explains_encode {} (requestWith "pw")⟩
  taken := by decide +kernel

/-- It takes the request with another one. -/
theorem accepts_requestWith_no :
    Accepts [Hex.encode (requestWith "no")] {} {} defaultSource (requestWith "no")
      (readWith "no") where
  explains := ⟨_, rfl, explains_encode {} (requestWith "no")⟩
  taken := by decide +kernel

/-- Both passwords fill one block, so the requests are of one length. -/
theorem length_requestWith : (requestWith "pw").length = (requestWith "no").length := by
  decide +kernel

/-- And they are the same but for the text of the password. -/
theorem alike_readWith : AlikeButPasswords (readWith "pw") (readWith "no") where
  code := rfl
  identifier := rfl
  authenticator := rfl
  attributes := .cons (.same _) (.cons (.password "pw" "no" rfl) .nil)

/-- Two passwords of two characters are told apart by the output. -/
theorem output_eq_iff_attributes_twoCharacters :
    (run [Hex.encode (requestWith "pw")] {} none).1.output
      ≠ (run [Hex.encode (requestWith "no")] {} none).1.output := by
  obtain ⟨-, -, hsame⟩ := output_eq_iff_attributes accepts_requestWith_pw accepts_requestWith_no
    length_requestWith alike_readWith none none
  intro houtput
  exact absurd (hsame.1 houtput) (by decide)

/-- The output of a request for access depends on more than the length of its password. -/
theorem not_output_eq_of_alike :
    ¬ ∀ (arguments others : List String) (folder otherFolder : Folder) (config : Config)
      (source : Address) (data otherData : List UInt8) (packet other : Packet)
      (setting? : Option String),
      Accepts arguments folder config source data packet →
      Accepts others otherFolder config source otherData other →
      data.length = otherData.length →
      packet.code = .accessRequest →
      AlikeButPasswords packet other →
      (run arguments folder setting?).1.output = (run others otherFolder setting?).1.output := by
  intro h
  have houtput := h _ _ _ _ _ _ _ _ _ _ none accepts_requestWith_pw accepts_requestWith_no
    length_requestWith rfl alike_readWith
  rw [output_of_accepts accepts_requestWith_pw, output_of_accepts accepts_requestWith_no,
    length_requestWith] at houtput
  have hsame := (linesText_eq_iff_of_alike alike_readWith _).1 houtput
  exact absurd hsame (by decide)

end Radius.Inspect
