import Radius.Address.Network
import Radius.Proofs.Address.Bits

/-!
# `Radius.Proofs.Address.Network`: what a network covers

`Network.contains` compares two shifted numbers. `Network.Covers` is what is meant by it: the
address is of the network's family, and begins with the first bits of the network's address.

* `Network.contains_iff`: the two are the same, for either family and at every length.
* `Network.covers_of_length_zero`: with no bit to compare, the whole family is covered.
* `Network.covers_host`: with all bits to compare, the address is the only one that is.
* `Network.read?_of_address`: a text that spells an address spells the network of that address
  alone. Such a text has no slash (`Address.slash_not_mem`), in none of the forms that it may take.
-/

set_option autoImplicit false

namespace Radius

/-! ### Membership -/

namespace Network

variable {network : Network} {address source : Address}

/-- The source is of the network's family, and begins with the network's leading bits. -/
def Covers (network : Network) (source : Address) : Prop :=
  network.address.sameFamily source = true ∧
    source.bits.take network.length = network.address.bits.take network.length

instance (network : Network) (source : Address) : Decidable (network.Covers source) :=
  inferInstanceAs (Decidable (_ ∧ _))

/-- The first bits of an address are those of its shifted number. -/
theorem take_bits {length : Nat} (h : length ≤ address.width) :
    address.bits.take length = bitsOf length (leading address length) := by
  rw [Address.bits_eq, take_bitsOf h]
  rfl

/-- The shifted number is as wide as what the shift leaves. -/
theorem leading_lt {length : Nat} (h : length ≤ address.width) :
    leading address length < 2 ^ length := by
  have hwidth : 2 ^ address.width = 2 ^ (address.width - length) * 2 ^ length := by
    rw [← Nat.pow_add, Nat.sub_add_cancel h]
  have hnumber := address.toNat_lt
  rw [hwidth] at hnumber
  rw [leading, Nat.shiftRight_eq_div_pow]
  exact Nat.div_lt_of_lt_mul hnumber

/-- A network contains what it covers. -/
theorem contains_iff : network.contains source = true ↔ network.Covers source := by
  rw [contains, Covers, Bool.and_eq_true, beq_iff_eq]
  refine and_congr_right fun hfamily => ?_
  have hnetwork : network.length ≤ network.address.width := network.length_le
  have hsource : network.length ≤ source.width := by
    rwa [← Address.width_eq_of_sameFamily hfamily]
  -- Both shifted numbers are as wide as the network is long, so their bits tell them apart.
  rw [take_bits hsource, take_bits hnetwork, bitsOf_inj (leading_lt hsource) (leading_lt hnetwork)]
  exact eq_comm

/-- A network without leading bits covers its family. -/
theorem covers_of_length_zero (h : network.length = 0) :
    network.Covers source ↔ network.address.sameFamily source = true := by
  rw [Covers, h]
  simp

/-- The network of an address alone covers that address alone. -/
theorem covers_host : (host address).Covers source ↔ source = address := by
  constructor
  · rintro ⟨hfamily, hbits⟩
    replace hfamily : address.sameFamily source = true := hfamily
    replace hbits : source.bits.take address.width = address.bits.take address.width := hbits
    have haddress : address.bits.take address.width = address.bits :=
      List.take_of_length_le (Nat.le_of_eq address.length_bits)
    have hsource : source.bits.take address.width = source.bits := by
      rw [Address.width_eq_of_sameFamily hfamily]
      exact List.take_of_length_le (Nat.le_of_eq source.length_bits)
    rw [haddress, hsource] at hbits
    exact (Address.eq_of_bits hfamily hbits.symm).symm
  · rintro rfl
    have hfamily : source.sameFamily source = true := by cases source <;> rfl
    exact ⟨hfamily, rfl⟩

end Network

/-! ### Texts without a slash -/

/-- What is in joined texts is in one of them, or in what stands between them. -/
theorem Text.mem_joined {separator : List Char} {pieces : List (List Char)} {c : Char}
    (h : c ∈ joined separator pieces) : c ∈ separator ∨ ∃ piece ∈ pieces, c ∈ piece := by
  fun_induction joined separator pieces with
  | case1 => cases h
  | case2 text => exact .inr ⟨text, by simp, h⟩
  | case3 text others _ ih =>
    rw [List.mem_append, List.mem_append] at h
    rcases h with (h | h) | h
    · exact .inr ⟨text, by simp, h⟩
    · exact .inl h
    · rcases ih h with h | ⟨piece, hpiece, h⟩
      · exact .inl h
      · exact .inr ⟨piece, by simp [hpiece], h⟩

/-- A number in hexadecimal is made of digits. -/
theorem Text.isSome_hexValue?_of_hexNumber? {text : List Char} {n : Nat}
    (h : hexNumber? text = some n) : ∀ c ∈ text, (hexValue? c).isSome := by
  obtain ⟨values, hvalues, -⟩ := Option.map_eq_some_iff.1 h
  clear h
  induction text generalizing values with
  | nil => simp
  | cons first text ih =>
    rw [List.mapM_cons] at hvalues
    obtain ⟨value, hfirst, hvalues⟩ := Option.bind_eq_some_iff.1 hvalues
    obtain ⟨others, hothers, -⟩ := Option.bind_eq_some_iff.1 hvalues
    intro c hc
    rcases List.mem_cons.1 hc with rfl | hc
    · rw [hfirst]
      rfl
    · exact ih others hothers c hc

/-- An IPv4 address is written with digits and dots. -/
theorem V4.slash_not_mem {text : List Char} {address : V4} (h : read? text = some address) :
    '/' ∉ text := by
  intro hslash
  rw [read?_eq_some_iff.1 h] at hslash
  rcases Text.mem_joined hslash with hdot | ⟨piece, hpiece, hdigit⟩
  · revert hdot
    decide
  · obtain ⟨byte, -, rfl⟩ := List.mem_map.1 hpiece
    have hvalue := Decimal.isSome_digitValue?_of_mem_digits hdigit
    contradiction

namespace V6

/-- A group is made of digits. -/
theorem slash_not_mem_of_group? {text : List Char} {group : UInt16}
    (h : group? text = some group) : '/' ∉ text := by
  intro hslash
  rw [group?] at h
  split at h
  next => cases h
  next =>
    obtain ⟨n, hn, -⟩ := Option.map_eq_some_iff.1 h
    have hvalue := Text.isSome_hexValue?_of_hexNumber? hn _ hslash
    contradiction

/-- Fields that make groups are groups themselves, or an IPv4 address in the last place. -/
theorem slash_not_mem_of_groups? {dotted : Bool} {fields : List (List Char)}
    {groups : List UInt16} (h : groups? dotted fields = some groups) :
    ∀ field ∈ fields, '/' ∉ field := by
  -- By the fields, from the front. Only the last one may be an IPv4 address, if `dotted` says so.
  fun_induction groups? dotted fields generalizing groups with
  | case1 => simp
  | case2 last embedded hembedded =>
    simp only [List.mem_singleton, forall_eq]
    cases dotted with
    | false => cases hembedded
    | true => exact V4.slash_not_mem hembedded
  | case3 last =>
    obtain ⟨group, hgroup, -⟩ := Option.map_eq_some_iff.1 h
    simp only [List.mem_singleton, forall_eq]
    exact slash_not_mem_of_group? hgroup
  | case4 field others _ group rest hrest hgroup ih =>
    intro each heach
    rcases List.mem_cons.1 heach with rfl | heach
    · exact slash_not_mem_of_group? hgroup
    · exact ih hrest each heach
  | case5 => cases h

/-- So a text between colons has no slash if its fields make groups. -/
theorem slash_not_mem_of_fields {dotted : Bool} {text : List Char} {groups : List UInt16}
    (h : groups? dotted (Text.fields ':' text) = some groups) : '/' ∉ text := by
  intro hslash
  rw [← Text.joined_fields ':' text] at hslash
  rcases Text.mem_joined hslash with hcolon | ⟨field, hfield, hslash⟩
  · revert hcolon
    decide
  · exact slash_not_mem_of_groups? h field hfield hslash

/-- Neither has one side of two colons. -/
theorem slash_not_mem_of_side? {dotted : Bool} {text : List Char} {groups : List UInt16}
    (h : side? dotted text = some groups) : '/' ∉ text := by
  rw [side?] at h
  split at h
  next hempty =>
    rw [List.isEmpty_iff.1 hempty]
    exact List.not_mem_nil
  next => exact slash_not_mem_of_fields h

/-- The two sides of two colons make up the text. -/
theorem eq_of_elision? {text front back : List Char} (h : elision? text = some (front, back)) :
    text = front ++ ':' :: ':' :: back := by
  fun_induction elision? text generalizing front with
  | case1 rest =>
    cases h
    rfl
  | case2 c rest _ ih =>
    obtain ⟨⟨inner, _⟩, hinner, hpair⟩ := Option.map_eq_some_iff.1 h
    cases hpair
    rw [ih hinner]
    rfl
  | case3 => cases h

/-- An IPv6 address is written with digits, colons and dots. -/
theorem slash_not_mem {text : List Char} {address : V6} (h : read? text = some address) :
    '/' ∉ text := by
  rw [read?] at h
  -- Without two colons the whole text is groups, and otherwise each of the two sides is.
  split at h
  next =>
    split at h
    next groups hgroups => exact slash_not_mem_of_fields hgroups
    next => cases h
  next front back hsides =>
    split at h
    next hfront hback =>
      rw [eq_of_elision? hsides]
      have hfront := slash_not_mem_of_side? hfront
      have hback := slash_not_mem_of_side? hback
      simp [hfront, hback]
    next => cases h

end V6

/-- An address of either family is written without a slash. -/
theorem Address.slash_not_mem {text : List Char} {address : Address}
    (h : read? text = some address) : '/' ∉ text := by
  rw [read?] at h
  split at h
  next hv4 => exact V4.slash_not_mem hv4
  next =>
    obtain ⟨_, hv6, -⟩ := Option.map_eq_some_iff.1 h
    exact V6.slash_not_mem hv6

/-- The text of an address is the text of the network of that address alone. -/
theorem Network.read?_of_address {text : List Char} {address : Address}
    (h : Address.read? text = some address) : read? text = some (host address) := by
  have hslash : '/' ∉ text := Address.slash_not_mem h
  -- So there is one field only, and the reader takes the branch for a bare address.
  have hfields : Text.fields '/' text = [text] :=
    Text.fields_joined (List.cons_ne_nil text []) (by simpa using hslash)
  rw [read?, hfields]
  simp only [h]
  rfl

end Radius
