/-!
# `Radius.Text.Utf8`: text as bytes

Text travels as UTF-8. `encode` writes characters as bytes; `decode?` reads bytes back and
refuses everything that is not the shortest form of a scalar value; `decodeLossy` reads any
bytes and puts one replacement character where a longest run of bytes that could have begun
a character breaks off. Both readers take one character at a time from `front`.
-/

set_option autoImplicit false

namespace Radius.Utf8

/-- The bytes of the character with a number. -/
def encodeNumber (n : Nat) : List UInt8 :=
  if n < 0x80 then [UInt8.ofNat n]
  else if n < 0x800 then [UInt8.ofNat (0xC0 + n / 64), UInt8.ofNat (0x80 + n % 64)]
  else if n < 0x10000 then
    [UInt8.ofNat (0xE0 + n / 4096), UInt8.ofNat (0x80 + n / 64 % 64), UInt8.ofNat (0x80 + n % 64)]
  else
    [UInt8.ofNat (0xF0 + n / 262144), UInt8.ofNat (0x80 + n / 4096 % 64),
      UInt8.ofNat (0x80 + n / 64 % 64), UInt8.ofNat (0x80 + n % 64)]

/-- The bytes of one character. -/
def encodeChar (c : Char) : List UInt8 :=
  encodeNumber c.toNat

/-- The bytes of a text. -/
def encode (text : List Char) : List UInt8 :=
  text.flatMap encodeChar

/-- The bytes of a string. -/
def ofString (text : String) : List UInt8 :=
  encode text.toList

/-- What stands at the front of some bytes: a character, or the beginning of one that breaks
off. Either way `more` counts the bytes it takes up after the first. -/
inductive Front
  | char (c : Char) (more : Nat)
  | broken (more : Nat)

/-- The byte continues a character that another byte began. -/
def isContinuation (byte : UInt8) : Bool :=
  0x80 ≤ byte.toNat && byte.toNat ≤ 0xBF

/-- The second byte of a character may be this one. After some first bytes fewer values are
allowed: they would spell a character with a shorter form, a surrogate, or a number past the
last character. -/
def isSecond (first second : UInt8) : Bool :=
  let least := if first.toNat = 0xE0 then 0xA0 else if first.toNat = 0xF0 then 0x90 else 0x80
  let most := if first.toNat = 0xED then 0x9F else if first.toNat = 0xF4 then 0x8F else 0xBF
  least ≤ second.toNat && second.toNat ≤ most

/-- The number that some bytes spell together: what the first adds to its mark, followed by
six bits from each of the others. -/
def number (mark : Nat) (first : UInt8) (others : List UInt8) : Nat :=
  others.foldl (fun acc byte => acc * 64 + (byte.toNat - 0x80)) (first.toNat - mark)

/-- The character, or beginning of one, that `first` opens before `rest`. -/
def front (first : UInt8) (rest : List UInt8) : Front :=
  if first.toNat < 0x80 then .char (Char.ofNat first.toNat) 0
  else if first.toNat < 0xC2 ∨ 0xF4 < first.toNat then .broken 0
  else
    match rest with
    | [] => .broken 0
    | second :: rest =>
      if isSecond first second then
        if first.toNat < 0xE0 then .char (Char.ofNat (number 0xC0 first [second])) 1
        else
          match rest with
          | [] => .broken 1
          | third :: rest =>
            if isContinuation third then
              if first.toNat < 0xF0 then .char (Char.ofNat (number 0xE0 first [second, third])) 2
              else
                match rest with
                | [] => .broken 2
                | fourth :: _ =>
                  if isContinuation fourth then
                    .char (Char.ofNat (number 0xF0 first [second, third, fourth])) 3
                  else .broken 2
            else .broken 1
      else .broken 0

/-- The text that the bytes spell, if they spell one. -/
def decode? : List UInt8 → Option (List Char)
  | [] => some []
  | first :: rest =>
    match front first rest with
    | .char c more => (decode? (rest.drop more)).map (c :: ·)
    | .broken _ => none
termination_by bytes => bytes.length
decreasing_by
  simp only [List.length_drop, List.length_cons]
  omega

/-- The string that the bytes spell, if they spell one. -/
def toString? (bytes : List UInt8) : Option String :=
  (decode? bytes).map String.ofList

/-- The text that the bytes spell, with U+FFFD for each stretch that spells nothing. -/
def decodeLossy : List UInt8 → List Char
  | [] => []
  | first :: rest =>
    match front first rest with
    | .char c more => c :: decodeLossy (rest.drop more)
    | .broken more => '\ufffd' :: decodeLossy (rest.drop more)
termination_by bytes => bytes.length
decreasing_by
  all_goals
    simp only [List.length_drop, List.length_cons]
    omega

/-- A text that decodes at all decodes to the same characters in the lossy reading. -/
theorem decodeLossy_eq_of_decode? {bytes : List UInt8} {text : List Char}
    (h : decode? bytes = some text) : decodeLossy bytes = text := by
  fun_induction decode? bytes generalizing text with
  | case1 =>
    rw [decodeLossy]
    simpa using h
  | case2 first rest c more hfront ih =>
    obtain ⟨tail, htail, rfl⟩ := Option.map_eq_some_iff.1 h
    rw [decodeLossy, hfront]
    simp [ih htail]
  | case3 => simp at h

end Radius.Utf8
