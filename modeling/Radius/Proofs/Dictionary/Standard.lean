import Radius.Proofs.Dictionary.History

/-!
# `Radius.Proofs.Dictionary.Standard`: what the standard dictionary knows

The dictionary of the standard attributes is a history of sixty registrations. Their numbers are
distinct, so each one is the last of its type (`last?_of_nodup`), and the dictionary gives every
standard attribute its own name and codec (`name?_standard`, `codec_standard`). The password is the
one whose codec is not that of its data (`codec_userPassword`).
-/

set_option autoImplicit false

namespace Radius.Dictionary

/-- Where every type is registered once, every registration is the last one of its type. -/
theorem last?_of_nodup {calls : List Registration} {call : Registration}
    (hnodup : (calls.map (·.type)).Nodup) (hcall : call ∈ calls) :
    Registration.last? calls call.type = some call := by
  induction calls using List.reverseRecOn with
  | nil => cases hcall
  | append_singleton calls last ih =>
    rw [List.map_append, List.nodup_append] at hnodup
    obtain ⟨hearlier, -, hdistinct⟩ := hnodup
    rw [last?_concat]
    rcases List.mem_append.1 hcall with hbefore | hlast
    · have hother : call.type ≠ last.type :=
        hdistinct _ (List.mem_map_of_mem hbefore) _ (by simp)
      rw [if_neg hother]
      exact ih hearlier hbefore
    · rw [List.mem_singleton.1 hlast, if_pos rfl]

/-- The standard attributes have numbers of their own. -/
theorem nodup_numbers : (AttributeType.all.map AttributeType.number).Nodup := by
  decide +kernel

section
variable [Digest] {type : AttributeType}

/-- The last registration of a standard attribute is its own. -/
theorem last?_standardCalls (h : type ∈ AttributeType.all) :
    Registration.last? standardCalls type.number = some ⟨type.number, type.name, type.codec⟩ := by
  have hnodup : (standardCalls.map (·.type)).Nodup := by
    rw [standardCalls, List.map_map]
    exact nodup_numbers
  exact last?_of_nodup hnodup (List.mem_map_of_mem h)

/-- Every standard attribute has its name. -/
theorem name?_standard (h : type ∈ AttributeType.all) :
    standard.name? type.number = some type.name := by
  rw [standard_eq_registerAll, name?_registerAll, last?_standardCalls h]
  rfl

/-- No other names are known. -/
theorem exists_of_name?_standard {number : UInt8} {name : String}
    (h : standard.name? number = some name) :
    ∃ type ∈ AttributeType.all, type.number = number ∧ type.name = name := by
  rw [standard_eq_registerAll, name?_registerAll] at h
  obtain ⟨call, hlast, rfl⟩ := Option.map_eq_some_iff.1 h
  obtain ⟨hcall, htype⟩ := List.mem_filter.1 (List.mem_of_getLast? hlast)
  obtain ⟨type, hmem, rfl⟩ := List.mem_map.1 hcall
  exact ⟨type, hmem, of_decide_eq_true htype, rfl⟩

/-- Every standard attribute has its codec. -/
theorem codec_standard (h : type ∈ AttributeType.all) :
    standard.codec type.number = type.codec := by
  rw [standard_eq_registerAll, codec_registerAll, last?_standardCalls h]
  rfl

end

/-! ### The password -/

/-- The password is one of the standard attributes. -/
theorem userPassword_mem :
    (⟨AttributeType.userPassword, "User-Password", .octets⟩ : AttributeType)
      ∈ AttributeType.all := by
  decide

section
variable [Digest]

/-- So it has its name. -/
theorem name?_userPassword :
    standard.name? AttributeType.userPassword = some "User-Password" := by
  have hname := name?_standard userPassword_mem
  exact hname

/-- The password has the one codec that is its own. -/
theorem codec_userPassword : standard.codec AttributeType.userPassword = .userPassword := by
  have hcodec := codec_standard userPassword_mem
  rw [hcodec, AttributeType.codec, if_pos rfl]

end

end Radius.Dictionary
