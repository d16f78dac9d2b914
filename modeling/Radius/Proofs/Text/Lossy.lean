import Radius.Text.Utf8.RoundTrip

/-!
# `Radius.Proofs.Text.Lossy`: what the lossy reader makes of bytes

`Utf8.decodeLossy` takes bytes apart byte by byte. `Utf8.Lossy` says what is to come of them without
the reader, in terms of the bytes of characters alone (`Utf8.encodeChar`): the bytes are cut into
characters and stretches that spell nothing, and each such stretch is read as one U+FFFD. A stretch
is as long as it can be while some character begins with it, and a single byte if none does
(`Utf8.Stray`).

There is only one way to cut bytes like this (`Utf8.Stray.unique`), and the reader finds it:
`Utf8.lossy_iff`.
-/

set_option autoImplicit false

namespace Radius.Utf8

/-- Some character begins with these bytes. -/
def Begins (bytes : List UInt8) : Prop :=
  ∃ c, bytes <+: encodeChar c

/-- A stretch in front of other bytes that spells nothing: no character is there, and the stretch
is the longest that some character begins with, or a single byte. -/
structure Stray (stretch rest : List UInt8) : Prop where
  nonempty : stretch ≠ []
  noChar : ∀ c, ¬ encodeChar c <+: stretch ++ rest
  begins : stretch.length = 1 ∨ Begins stretch
  longest : ∀ longer, longer <+: stretch ++ rest → stretch.length < longer.length → ¬ Begins longer

/-- What bytes spell, with one U+FFFD for each stretch that spells nothing. -/
inductive Lossy : List UInt8 → List Char → Prop
  | nil : Lossy [] []
  | char (c : Char) {rest : List UInt8} {text : List Char} (h : Lossy rest text) :
    Lossy (encodeChar c ++ rest) (c :: text)
  | stray {stretch rest : List UInt8} {text : List Char} (hstray : Stray stretch rest)
    (h : Lossy rest text) : Lossy (stretch ++ rest) ('\ufffd' :: text)

variable {first : UInt8} {bytes rest stretch : List UInt8} {more : Nat} {c : Char}
  {text : List Char}

/-! ### What stands at the front -/

/-- A character at the front is found there. -/
theorem front_of_prefix (h : encodeChar c <+: first :: rest) :
    ∃ more, front first rest = .char c more := by
  obtain ⟨after, hafter⟩ := h
  obtain ⟨opening, tail, hbytes, hfront⟩ := front_encodeChar c after
  rw [hbytes, List.cons_append, List.cons.injEq] at hafter
  obtain ⟨rfl, rfl⟩ := hafter
  exact ⟨_, hfront⟩

/-- Where a character breaks off, some character begins with what there is of it, or it is a single
byte. -/
theorem begins_of_broken (h : front first rest = .broken more) :
    (first :: rest.take more).length = 1 ∨ Begins (first :: rest.take more) := by
  -- The bytes that are missing may all be the least one that continues a character.
  have hgoesOn : isContinuation 0x80 = true := rfl
  unfold front at h
  split at h
  next => cases h
  split at h
  next => cases h; exact .inl (by simp)
  next hinside =>
  cases rest with
  | nil => cases h; exact .inl rfl
  | cons second rest =>
  simp only at h
  split at h
  next hsecond =>
    split at h
    next => cases h
    next hlong =>
    -- What begins with two bytes has three or four.
    have htwo : Begins [first, second] := by
      by_cases hthree : first.toNat < 0xF0
      · exact ⟨_, by rw [encodeChar_three (by omega) hthree hsecond hgoesOn]; exact ⟨[0x80], rfl⟩⟩
      · exact ⟨_, by
          rw [encodeChar_four (by omega) (by omega) hsecond hgoesOn hgoesOn]
          exact ⟨[0x80, 0x80], rfl⟩⟩
    cases rest with
    | nil => cases h; exact .inr htwo
    | cons third rest =>
    simp only at h
    split at h
    next hthird =>
      split at h
      next => cases h
      next hfour =>
      have hthree : Begins [first, second, third] :=
        ⟨_, by
          rw [encodeChar_four (by omega) (by omega) hsecond hthird hgoesOn]
          exact ⟨[0x80], rfl⟩⟩
      cases rest with
      | nil => cases h; exact .inr hthree
      | cons fourth rest =>
      simp only at h
      split at h
      next => cases h
      next => cases h; exact .inr hthree
    next => cases h; exact .inr htwo
  next => cases h; exact .inl (by simp)

/-- Where a character breaks off depends on the bytes up to there and the next one alone. -/
theorem front_append_of_broken (h : front first rest = .broken more) (hmore : more < rest.length)
    (others : List UInt8) : front first (rest.take (more + 1) ++ others) = .broken more := by
  -- The bytes are tested one by one as `front` does, and each that is tested stands in both rows.
  unfold front at h ⊢
  split at h
  next => cases h
  next hmany =>
  rw [if_neg hmany]
  split at h
  next houtside => rw [if_pos houtside, h]
  next hinside =>
  rw [if_neg hinside]
  cases rest with
  | nil => cases hmore
  | cons second rest =>
  simp only [List.take_succ_cons, List.cons_append] at h ⊢
  split at h
  next hsecond =>
    rw [if_pos hsecond]
    split at h
    next => cases h
    next hlong =>
    rw [if_neg hlong]
    cases rest with
    | nil => cases h; simp at hmore
    | cons third rest =>
    simp only at h
    split at h
    next hthird =>
      split at h
      next => cases h
      next hfour =>
      cases rest with
      | nil => cases h; simp at hmore
      | cons fourth rest =>
      simp only at h
      split at h
      next => cases h
      next hfourth =>
        cases h
        simp [hthird, hfour, hfourth]
    next hthird =>
      cases h
      simp [hthird]
  next hsecond => rw [if_neg hsecond, h]

/-- Where a character breaks off is a stretch that spells nothing. -/
theorem stray_of_broken (h : front first rest = .broken more) :
    Stray (first :: rest.take more) (rest.drop more) where
  nonempty := List.cons_ne_nil _ _
  noChar := by
    intro c hprefix
    rw [List.cons_append, List.take_append_drop] at hprefix
    obtain ⟨found, hfound⟩ := front_of_prefix hprefix
    rw [h] at hfound
    cases hfound
  begins := begins_of_broken h
  longest := by
    intro longer hprefix hlonger hbegins
    obtain ⟨c, hbegins⟩ := hbegins
    rw [List.cons_append, List.take_append_drop] at hprefix
    cases longer with
    | nil => cases hlonger
    | cons opening longer =>
    obtain ⟨rfl, htail⟩ := List.cons_prefix_cons.1 hprefix
    rw [List.length_cons, List.length_cons, List.length_take] at hlonger
    have hlength := htail.length_le
    have hmore : more < rest.length := by omega
    -- The character has all the bytes up to where it breaks off, and the next one too.
    have hnext : rest.take (more + 1) <+: longer := by
      refine List.prefix_of_prefix_length_le (List.take_prefix _ _) htail ?_
      rw [List.length_take]
      omega
    obtain ⟨after, hafter⟩ := hnext
    obtain ⟨others, hothers⟩ := hbegins
    have hbytes : encodeChar c <+: opening :: (rest.take (more + 1) ++ (after ++ others)) := by
      rw [← hothers, ← hafter]
      simp
    obtain ⟨found, hfound⟩ := front_of_prefix hbytes
    rw [front_append_of_broken h hmore] at hfound
    cases hfound

/-- Bytes begin with no more than one stretch that spells nothing. -/
theorem Stray.unique {other otherRest : List UInt8} (h : Stray stretch rest)
    (hother : Stray other otherRest) (hsame : stretch ++ rest = other ++ otherRest) :
    stretch = other ∧ rest = otherRest := by
  have hle : ∀ {one two oneRest twoRest : List UInt8}, Stray one oneRest → Stray two twoRest →
      one ++ oneRest = two ++ twoRest → two.length ≤ one.length := by
    intro one two oneRest twoRest hone htwo heq
    rw [← Nat.not_lt]
    intro hlonger
    have hpositive := List.length_pos_iff.2 hone.nonempty
    rcases htwo.begins with hsingle | hbegins
    · omega
    · exact hone.longest two (heq ▸ List.prefix_append _ _) hlonger hbegins
  exact List.append_inj hsame (Nat.le_antisymm (hle hother h hsame.symm) (hle h hother hsame))

/-! ### The whole -/

/-- The reader reads bytes as it should. -/
theorem lossy_decodeLossy (bytes : List UInt8) : Lossy bytes (decodeLossy bytes) := by
  fun_induction decodeLossy bytes with
  | case1 => exact .nil
  | case2 first rest c more hfront ih =>
    have hbytes : first :: rest = encodeChar c ++ rest.drop more := by
      rw [encodeChar_of_front hfront, List.cons_append, List.take_append_drop]
    rw [hbytes]
    exact .char c ih
  | case3 first rest more hfront ih =>
    have hbytes : first :: rest = (first :: rest.take more) ++ rest.drop more := by
      rw [List.cons_append, List.take_append_drop]
    rw [hbytes]
    exact .stray (stray_of_broken hfront) ih

/-- There is no other way to read them. -/
theorem decodeLossy_of_lossy (h : Lossy bytes text) : decodeLossy bytes = text := by
  induction h with
  | nil => rw [decodeLossy]
  | @char c rest text h ih =>
    obtain ⟨opening, tail, hbytes, hfront⟩ := front_encodeChar c rest
    rw [hbytes, List.cons_append, decodeLossy, hfront]
    simp [ih]
  | @stray stretch rest text hstray h ih =>
    cases hstretch : stretch with
    | nil => exact absurd hstretch hstray.nonempty
    | cons opening tail =>
    rw [hstretch] at hstray
    rw [List.cons_append, decodeLossy]
    cases hfront : front opening (tail ++ rest) with
    | char c more =>
      -- Then a character is spelled where the stretch begins.
      refine absurd ?_ (hstray.noChar c)
      rw [encodeChar_of_front hfront, List.cons_append]
      exact List.cons_prefix_cons.2 ⟨rfl, List.take_prefix _ _⟩
    | broken more =>
      have hsame : (opening :: tail) ++ rest
          = (opening :: (tail ++ rest).take more) ++ (tail ++ rest).drop more := by
        rw [List.cons_append, List.cons_append, List.take_append_drop]
      obtain ⟨-, hrest⟩ := hstray.unique (stray_of_broken hfront) hsame
      simp [← hrest, ih]

/-- The lossy reader puts one U+FFFD for each stretch that spells nothing, and reads the characters
as they are. -/
theorem lossy_iff : Lossy bytes text ↔ decodeLossy bytes = text :=
  ⟨decodeLossy_of_lossy, fun h => h ▸ lossy_decodeLossy bytes⟩

end Radius.Utf8
