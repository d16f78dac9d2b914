/-!
# `Radius.Text.Parts`: the parts of a text

Three ways to take a text apart:

* `trim` drops blank characters at both ends of a text and keeps those inside. What is blank
  is the White_Space property of characters.
* `fields` cuts a text at every separator and keeps empty fields, so a text always has one
  field more than it has separators and joining them gives the text back (`joined_fields`).
  Pieces without a separator come back from the text that they are joined to
  (`fields_joined`).
* A reader of text returns what it leaves unread as a `Tail` of what it was given: a text
  that is no longer. A reader that has taken a character before it calls another one thus
  knows that it gets on, and ends.
-/

set_option autoImplicit false

namespace Radius.Text

/-! ### Blanks -/

/-- The ranges of characters with the White_Space property. -/
def blankRanges : List (Nat × Nat) := [
  (0x09, 0x0D), (0x20, 0x20), (0x85, 0x85), (0xA0, 0xA0), (0x1680, 0x1680), (0x2000, 0x200A),
  (0x2028, 0x2029), (0x202F, 0x202F), (0x205F, 0x205F), (0x3000, 0x3000)]

/-- The character is white space. -/
def isBlank (c : Char) : Bool :=
  blankRanges.any fun range => range.1 ≤ c.toNat && c.toNat ≤ range.2

/-- The text without the blank characters at its two ends. -/
def trim (text : List Char) : List Char :=
  ((text.dropWhile isBlank).reverse.dropWhile isBlank).reverse

/-- The string without the blank characters at its two ends. -/
def trimString (text : String) : String :=
  String.ofList (trim text.toList)

/-- A text that neither begins nor ends with a blank is left alone. -/
theorem trim_eq_self {text : List Char} (hfirst : ∀ c ∈ text.head?, isBlank c = false)
    (hlast : ∀ c ∈ text.getLast?, isBlank c = false) : trim text = text := by
  have hdrop : ∀ s : List Char, (∀ c ∈ s.head?, isBlank c = false) →
      s.dropWhile isBlank = s := by
    intro s h
    cases s with
    | nil => rfl
    | cons c s => simp [h c (by simp)]
  rw [trim, hdrop text hfirst, hdrop text.reverse (by simpa using hlast), List.reverse_reverse]

/-- There is nothing to trim in a text without blanks. -/
theorem trim_of_no_blank {text : List Char} (h : ∀ c ∈ text, isBlank c = false) :
    trim text = text :=
  trim_eq_self (fun c hc => h c (List.mem_of_mem_head? hc))
    (fun c hc => h c (List.mem_of_mem_getLast? hc))

/-! ### Fields between separators -/

/-- The fields between the separators of a text. -/
def fields (separator : Char) : List Char → List (List Char)
  | [] => [[]]
  | c :: rest =>
    if c = separator then [] :: fields separator rest
    else
      match fields separator rest with
      | [] => [[c]]
      | field :: others => (c :: field) :: others

/-- Texts with a separator between each two. -/
def joined (separator : List Char) : List (List Char) → List Char
  | [] => []
  | [text] => text
  | text :: others => text ++ separator ++ joined separator others

/-- Every text has a field, the empty one as well. -/
theorem fields_ne_nil (separator : Char) (text : List Char) : fields separator text ≠ [] := by
  cases text with
  | nil => simp [fields]
  | cons c rest =>
    rw [fields]
    split
    · simp
    · split <;> simp

/-- Joining the fields of a text gives the text back. -/
theorem joined_fields (separator : Char) (text : List Char) :
    joined [separator] (fields separator text) = text := by
  induction text with
  | nil => rfl
  | cons c rest ih =>
    rw [fields]
    cases hfields : fields separator rest with
    | nil => exact absurd hfields (fields_ne_nil separator rest)
    | cons field others =>
      rw [hfields] at ih
      split
      next h =>
        rw [joined, ih, h]
        · simp
        · simp
      next =>
        cases others with
        | nil => simpa [joined] using ih
        | cons other others =>
          rw [← ih]
          simp [joined]

/-- Cutting what was joined gives the pieces back, if none of them holds the separator. -/
theorem fields_joined {separator : Char} {pieces : List (List Char)} (hnonempty : pieces ≠ [])
    (hfree : ∀ piece ∈ pieces, separator ∉ piece) :
    fields separator (joined [separator] pieces) = pieces := by
  have hcut : ∀ (piece rest : List Char), separator ∉ piece →
      fields separator (piece ++ separator :: rest) = piece :: fields separator rest := by
    intro piece rest hfree
    induction piece with
    | nil => simp [fields]
    | cons c piece ih =>
      rw [List.mem_cons, not_or] at hfree
      rw [List.cons_append, fields, if_neg (Ne.symm hfree.1), ih hfree.2]
  have hwhole : ∀ piece : List Char, separator ∉ piece → fields separator piece = [piece] := by
    intro piece hfree
    induction piece with
    | nil => rfl
    | cons c piece ih =>
      rw [List.mem_cons, not_or] at hfree
      rw [fields, if_neg (Ne.symm hfree.1), ih hfree.2]
  induction pieces with
  | nil => exact absurd rfl hnonempty
  | cons piece others ih =>
    cases others with
    | nil => exact hwhole piece (hfree piece (by simp))
    | cons next others =>
      rw [joined, List.append_assoc, List.singleton_append, hcut piece _ (hfree piece (by simp)),
        ih (by simp) (fun p h => hfree p (List.mem_cons_of_mem _ h))]
      simp

/-! ### What is left of a text -/

/-- What is left of a text after some of it was read. -/
abbrev Tail (text : List Char) : Type :=
  { rest : List Char // rest.length ≤ text.length }

/-- Nothing was read. -/
def Tail.all (text : List Char) : Tail text :=
  ⟨text, Nat.le_refl _⟩

/-- What is left of a text is left of every text that it was left of. -/
def Tail.after {text inner : List Char} (tail : Tail inner) (h : inner.length ≤ text.length) :
    Tail text :=
  ⟨tail.1, Nat.le_trans tail.2 h⟩

/-- What is left of what an earlier part left. -/
def Tail.andThen {text : List Char} (first : Tail text) (second : Tail first.1) : Tail text :=
  second.after first.2

/-- What is left of a text is left of the text with one more character before it. -/
def Tail.cons {text : List Char} (c : Char) (tail : Tail text) : Tail (c :: text) :=
  tail.after (Nat.le_succ _)

/-- What is left of a text that satisfies a predicate up to there. -/
def Tail.dropWhile (p : Char → Bool) (text : List Char) : Tail text :=
  ⟨text.dropWhile p, (List.dropWhile_sublist p).length_le⟩

/-- What is left of a text once the given character was taken, if it stands in front. -/
def Tail.skip (c : Char) : (text : List Char) → Tail text
  | [] => .all []
  | first :: rest => if first = c then ⟨rest, Nat.le_succ _⟩ else .all _

end Radius.Text
