import Radius.Text.Utf8

/-!
# `Radius.Text.Utf8.RoundTrip`: text and its bytes determine each other

Bytes spell a text exactly if they are the bytes of that text (`decode?_eq_some_iff`, and
`toString?_eq_some_iff` for strings). One character at a time this is `front_encodeChar` (the
bytes of a character open with it) and `encodeChar_of_front` (a character that stands at the
front takes up exactly its own bytes), each shown for the four lengths of a character.
-/

set_option autoImplicit false

namespace Radius.Utf8

/-- Which bytes go on with a character. -/
theorem isContinuation_iff {byte : UInt8} :
    isContinuation byte = true ↔ 0x80 ≤ byte.toNat ∧ byte.toNat ≤ 0xBF := by
  simp [isContinuation]

/-- Which bytes come second. They go on with a character, but four first bytes have bounds of
their own for them. -/
theorem isSecond_iff {first second : UInt8} :
    isSecond first second = true ↔ 0x80 ≤ second.toNat ∧ second.toNat ≤ 0xBF ∧
      (first.toNat = 0xE0 → 0xA0 ≤ second.toNat) ∧ (first.toNat = 0xED → second.toNat ≤ 0x9F) ∧
      (first.toNat = 0xF0 → 0x90 ≤ second.toNat) ∧ (first.toNat = 0xF4 → second.toNat ≤ 0x8F) := by
  simp only [isSecond, Bool.and_eq_true, decide_eq_true_eq]
  repeat' split
  all_goals omega

/-! ### What was written is read -/

section
variable {n : Nat}

/-- A number of seven bits is read from its one byte. -/
theorem front_one (hmost : n < 0x80) (rest : List UInt8) :
    front (UInt8.ofNat n) rest = .char (Char.ofNat n) 0 := by
  have hfirst : (UInt8.ofNat n).toNat = n := UInt8.toNat_ofNat_of_lt' (show _ < 256 by omega)
  rw [front.eq_def, hfirst, if_pos hmost]

/-- A number of eleven bits is read from its two bytes. -/
theorem front_two (hleast : 0x80 ≤ n) (hmost : n < 0x800) (rest : List UInt8) :
    front (UInt8.ofNat (0xC0 + n / 64)) (UInt8.ofNat (0x80 + n % 64) :: rest)
      = .char (Char.ofNat n) 1 := by
  have hfirst : (UInt8.ofNat (0xC0 + n / 64)).toNat = 0xC0 + n / 64 :=
    UInt8.toNat_ofNat_of_lt' (show _ < 256 by omega)
  have hsecond : (UInt8.ofNat (0x80 + n % 64)).toNat = 0x80 + n % 64 :=
    UInt8.toNat_ofNat_of_lt' (show _ < 256 by omega)
  -- Only the numbers of the bytes matter from here on.
  generalize UInt8.ofNat (0xC0 + n / 64) = first at hfirst
  generalize UInt8.ofNat (0x80 + n % 64) = second at hsecond
  have hallowed : isSecond first second = true := isSecond_iff.2 (by omega)
  have hspelled : number 0xC0 first [second] = n := by
    simp only [number, List.foldl]
    omega
  rw [front.eq_def, if_neg (by omega), if_neg (by omega)]
  simp only [hallowed, if_true]
  rw [if_pos (by omega), hspelled]

/-- A number of sixteen bits is read from its three bytes, unless it is a surrogate. -/
theorem front_three (hleast : 0x800 ≤ n) (hmost : n < 0x10000) (hvalid : n.isValidChar)
    (rest : List UInt8) :
    front (UInt8.ofNat (0xE0 + n / 4096))
        (UInt8.ofNat (0x80 + n / 64 % 64) :: UInt8.ofNat (0x80 + n % 64) :: rest)
      = .char (Char.ofNat n) 2 := by
  have hfirst : (UInt8.ofNat (0xE0 + n / 4096)).toNat = 0xE0 + n / 4096 :=
    UInt8.toNat_ofNat_of_lt' (show _ < 256 by omega)
  have hsecond : (UInt8.ofNat (0x80 + n / 64 % 64)).toNat = 0x80 + n / 64 % 64 :=
    UInt8.toNat_ofNat_of_lt' (show _ < 256 by omega)
  have hthird : (UInt8.ofNat (0x80 + n % 64)).toNat = 0x80 + n % 64 :=
    UInt8.toNat_ofNat_of_lt' (show _ < 256 by omega)
  generalize UInt8.ofNat (0xE0 + n / 4096) = first at hfirst
  generalize UInt8.ofNat (0x80 + n / 64 % 64) = second at hsecond
  generalize UInt8.ofNat (0x80 + n % 64) = third at hthird
  -- After the first byte 0xED the second one would spell a surrogate from 0xA0 on.
  have hallowed : isSecond first second = true := isSecond_iff.2 (by omega)
  have hgoesOn : isContinuation third = true := isContinuation_iff.2 (by omega)
  have hspelled : number 0xE0 first [second, third] = n := by
    simp only [number, List.foldl]
    omega
  rw [front.eq_def, if_neg (by omega), if_neg (by omega)]
  simp only [hallowed, hgoesOn, if_true]
  rw [if_neg (by omega), if_pos (by omega), hspelled]

/-- Any other number of a character is read from its four bytes. -/
theorem front_four (hleast : 0x10000 ≤ n) (hmost : n < 0x110000) (rest : List UInt8) :
    front (UInt8.ofNat (0xF0 + n / 262144))
        (UInt8.ofNat (0x80 + n / 4096 % 64) :: UInt8.ofNat (0x80 + n / 64 % 64)
          :: UInt8.ofNat (0x80 + n % 64) :: rest)
      = .char (Char.ofNat n) 3 := by
  have hfirst : (UInt8.ofNat (0xF0 + n / 262144)).toNat = 0xF0 + n / 262144 :=
    UInt8.toNat_ofNat_of_lt' (show _ < 256 by omega)
  have hsecond : (UInt8.ofNat (0x80 + n / 4096 % 64)).toNat = 0x80 + n / 4096 % 64 :=
    UInt8.toNat_ofNat_of_lt' (show _ < 256 by omega)
  have hthird : (UInt8.ofNat (0x80 + n / 64 % 64)).toNat = 0x80 + n / 64 % 64 :=
    UInt8.toNat_ofNat_of_lt' (show _ < 256 by omega)
  have hfourth : (UInt8.ofNat (0x80 + n % 64)).toNat = 0x80 + n % 64 :=
    UInt8.toNat_ofNat_of_lt' (show _ < 256 by omega)
  generalize UInt8.ofNat (0xF0 + n / 262144) = first at hfirst
  generalize UInt8.ofNat (0x80 + n / 4096 % 64) = second at hsecond
  generalize UInt8.ofNat (0x80 + n / 64 % 64) = third at hthird
  generalize UInt8.ofNat (0x80 + n % 64) = fourth at hfourth
  -- The bounds for the second byte after 0xF0 and 0xF4 are those of the number.
  have hallowed : isSecond first second = true := isSecond_iff.2 (by omega)
  have hthirdGoesOn : isContinuation third = true := isContinuation_iff.2 (by omega)
  have hfourthGoesOn : isContinuation fourth = true := isContinuation_iff.2 (by omega)
  have hspelled : number 0xF0 first [second, third, fourth] = n := by
    simp only [number, List.foldl]
    omega
  rw [front.eq_def, if_neg (by omega), if_neg (by omega)]
  simp only [hallowed, hthirdGoesOn, hfourthGoesOn, if_true]
  rw [if_neg (by omega), if_neg (by omega), hspelled]

end

/-- The bytes of a character open with that character, whatever follows them. -/
theorem front_encodeChar (c : Char) (rest : List UInt8) :
    ∃ first tail, encodeChar c = first :: tail ∧
      front first (tail ++ rest) = .char c tail.length := by
  have hvalid : c.toNat.isValidChar := c.valid
  have hsame : Char.ofNat c.toNat = c := Char.ofNat_toNat c
  -- The number of the character decides how many bytes it has.
  unfold encodeChar encodeNumber
  generalize c.toNat = n at hvalid hsame ⊢
  subst hsame
  split
  next hone => exact ⟨_, _, rfl, front_one hone rest⟩
  split
  next htwo => exact ⟨_, _, rfl, front_two (by omega) htwo rest⟩
  split
  next hthree => exact ⟨_, _, rfl, front_three (by omega) hthree hvalid rest⟩
  next hfour => exact ⟨_, _, rfl, front_four (by omega) (by omega) rest⟩

/-- A small character is one byte. -/
theorem encodeChar_of_lt {c : Char} (h : c.toNat < 0x80) :
    encodeChar c = [UInt8.ofNat c.toNat] :=
  if_pos h

/-- The first byte of any other character is not the byte of a small one. -/
theorem exists_encodeChar_of_le {c : Char} (h : 0x80 ≤ c.toNat) :
    ∃ first tail, encodeChar c = first :: tail ∧ 0x80 ≤ first.toNat := by
  have hvalid : c.toNat.isValidChar := c.valid
  unfold encodeChar encodeNumber
  generalize c.toNat = n at h hvalid ⊢
  rw [if_neg (by omega)]
  split
  next => exact ⟨_, _, rfl, by rw [UInt8.toNat_ofNat_of_lt' (show _ < 256 by omega)]; omega⟩
  split
  next => exact ⟨_, _, rfl, by rw [UInt8.toNat_ofNat_of_lt' (show _ < 256 by omega)]; omega⟩
  next => exact ⟨_, _, rfl, by rw [UInt8.toNat_ofNat_of_lt' (show _ < 256 by omega)]; omega⟩

/-! ### What is read was written -/

/-- The character of a number is written as the number is. -/
theorem encodeChar_ofNat {n : Nat} (hvalid : n.isValidChar) :
    encodeChar (Char.ofNat n) = encodeNumber n := by
  rw [Char.ofNat, dif_pos hvalid]
  rfl

/-- A byte with the number of a byte is that byte. -/
theorem ofNat_eq (byte : UInt8) {n : Nat} (h : n = byte.toNat) : UInt8.ofNat n = byte := by
  rw [h, UInt8.ofNat_toNat]

section
variable {first second third fourth : UInt8}

/-- What is read from one byte is written as that byte. -/
theorem encodeChar_one (hmost : first.toNat < 0x80) :
    encodeChar (Char.ofNat first.toNat) = [first] := by
  rw [encodeChar_ofNat (by omega), encodeNumber, if_pos hmost, UInt8.ofNat_toNat]

/-- What is read from two bytes is written as these. -/
theorem encodeChar_two (hleast : 0xC2 ≤ first.toNat) (hmost : first.toNat < 0xE0)
    (hallowed : isSecond first second = true) :
    encodeChar (Char.ofNat (number 0xC0 first [second])) = [first, second] := by
  rw [isSecond_iff] at hallowed
  simp only [number, List.foldl]
  rw [encodeChar_ofNat (by omega), encodeNumber, if_neg (by omega), if_pos (by omega),
    ofNat_eq first (by omega), ofNat_eq second (by omega)]

/-- What is read from three bytes is written as these. -/
theorem encodeChar_three (hleast : 0xE0 ≤ first.toNat) (hmost : first.toNat < 0xF0)
    (hallowed : isSecond first second = true) (hgoesOn : isContinuation third = true) :
    encodeChar (Char.ofNat (number 0xE0 first [second, third])) = [first, second, third] := by
  rw [isSecond_iff] at hallowed
  rw [isContinuation_iff] at hgoesOn
  simp only [number, List.foldl]
  rw [encodeChar_ofNat (by omega), encodeNumber, if_neg (by omega), if_neg (by omega),
    if_pos (by omega), ofNat_eq first (by omega), ofNat_eq second (by omega),
    ofNat_eq third (by omega)]

/-- What is read from four bytes is written as these. -/
theorem encodeChar_four (hleast : 0xF0 ≤ first.toNat) (hmost : first.toNat ≤ 0xF4)
    (hallowed : isSecond first second = true) (hthird : isContinuation third = true)
    (hfourth : isContinuation fourth = true) :
    encodeChar (Char.ofNat (number 0xF0 first [second, third, fourth]))
      = [first, second, third, fourth] := by
  rw [isSecond_iff] at hallowed
  rw [isContinuation_iff] at hthird hfourth
  simp only [number, List.foldl]
  rw [encodeChar_ofNat (by omega), encodeNumber, if_neg (by omega), if_neg (by omega),
    if_neg (by omega), ofNat_eq first (by omega), ofNat_eq second (by omega),
    ofNat_eq third (by omega), ofNat_eq fourth (by omega)]

end

/-- A character that stands at the front takes up exactly its own bytes. -/
theorem encodeChar_of_front {first : UInt8} {rest : List UInt8} {c : Char} {more : Nat}
    (h : front first rest = .char c more) : encodeChar c = first :: rest.take more := by
  unfold front at h
  split at h
  next hone =>
    obtain ⟨rfl, rfl⟩ := Front.char.inj h
    exact encodeChar_one hone
  split at h
  next => cases h
  next hinside =>
  -- From here on each further byte is taken apart and tested as `front` does it.
  cases rest with
  | nil => cases h
  | cons second rest =>
  simp only at h
  split at h
  next hallowed =>
    split at h
    next htwo =>
      obtain ⟨rfl, rfl⟩ := Front.char.inj h
      exact encodeChar_two (by omega) htwo hallowed
    cases rest with
    | nil => cases h
    | cons third rest =>
    simp only at h
    split at h
    next hthird =>
      split at h
      next hthree =>
        obtain ⟨rfl, rfl⟩ := Front.char.inj h
        exact encodeChar_three (by omega) hthree hallowed hthird
      cases rest with
      | nil => cases h
      | cons fourth rest =>
      simp only at h
      split at h
      next hfourth =>
        obtain ⟨rfl, rfl⟩ := Front.char.inj h
        exact encodeChar_four (by omega) (by omega) hallowed hthird hfourth
      next => cases h
    next => cases h
  next => cases h

/-! ### Whole texts -/

/-- A text is written character by character. -/
theorem encode_cons (c : Char) (text : List Char) :
    encode (c :: text) = encodeChar c ++ encode text := by
  rw [encode, List.flatMap_cons, ← encode]

/-- The bytes of a text spell that text. -/
theorem decode?_encode (text : List Char) : decode? (encode text) = some text := by
  induction text with
  | nil => rw [encode, List.flatMap_nil, decode?]
  | cons c text ih =>
    obtain ⟨first, tail, hbytes, hfront⟩ := front_encodeChar c (encode text)
    rw [encode_cons, hbytes, List.cons_append, decode?, hfront]
    simp [ih]

/-- Only the bytes of a text spell it. -/
theorem encode_of_decode? {bytes : List UInt8} {text : List Char}
    (h : decode? bytes = some text) : encode text = bytes := by
  fun_induction decode? bytes generalizing text with
  | case1 =>
    cases h
    rfl
  | case2 first rest c more hfront ih =>
    obtain ⟨others, hothers, rfl⟩ := Option.map_eq_some_iff.1 h
    rw [encode_cons, encodeChar_of_front hfront, ih hothers, List.cons_append,
      List.take_append_drop]
  | case3 => cases h

/-- Which bytes spell a text. -/
theorem decode?_eq_some_iff {bytes : List UInt8} {text : List Char} :
    decode? bytes = some text ↔ bytes = encode text :=
  ⟨fun h => (encode_of_decode? h).symm, fun h => h ▸ decode?_encode text⟩

/-- Which bytes spell a string. -/
theorem toString?_eq_some_iff {bytes : List UInt8} {text : String} :
    toString? bytes = some text ↔ bytes = ofString text := by
  rw [toString?, Option.map_eq_some_iff]
  constructor
  · rintro ⟨chars, hchars, rfl⟩
    rw [ofString, String.toList_ofList]
    exact decode?_eq_some_iff.1 hchars
  · rintro rfl
    exact ⟨text.toList, decode?_encode _, String.ofList_toList⟩

/-- The bytes of a string spell that string. -/
theorem toString?_ofString (text : String) : toString? (ofString text) = some text :=
  toString?_eq_some_iff.2 rfl

end Radius.Utf8
