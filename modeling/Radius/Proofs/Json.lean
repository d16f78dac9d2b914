import Mathlib.Data.List.Forall2
import Radius.Json.Reader
import Radius.Json.RoundTrip
import Radius.Json.Writer

/-!
# `Radius.Proofs.Json`: written values are read back

A writer puts values, elements and members on lines of their own, and a reader goes through them
from the left. `ReadsAs` says of a reader that it takes a written form for a value, and that it
stops where the form ends, whatever follows. There is one theorem for each form:

* `readsAs_string`, `readsAs_flag` and `readsAs_optional`: the scalars.
* `readsAs_array`: an array, if its elements are read one by one.
* `readsAs_record`: an object, if its members fill the draft of a record one after the other
  (`Fills`).

`read_of_readsAs` is what this comes to for a whole text.
-/

set_option autoImplicit false

namespace Radius.Json

open Text

section
variable {α β σ : Type}

/-- The reader takes a written form for a value, whatever follows it, and leaves what follows. The
form begins with no blank, and not with the bracket that ends an array. -/
def ReadsAs (reader : Reader α) (written : List Char) (value : α) : Prop :=
  ∃ first inner, written = first :: inner ∧ isSpace first = false ∧ first ≠ ']' ∧
    ∀ rest, Leaves (reader first (inner ++ rest)) value rest

/-- The members fill the first draft of a record up to the last one. Each of them is a field of its
own, which is read into the draft that the members before it made. -/
inductive Fills (fields : List (Field σ)) : σ → List (String × List Char) → σ → Prop
  | nil (draft : σ) : Fills fields draft [] draft
  | cons {draft next final : σ} {name : String} {written : List Char} {reader : Reader σ}
      {members : List (String × List Char)}
      (hfield : memberReader fields draft name.toList = .ok reader)
      (hreads : ReadsAs reader written next) (hothers : Fills fields next members final) :
      Fills fields draft ((name, written) :: members) final

/-! ### Blanks -/

/-- A character that is no blank is the next token. -/
theorem token?_cons {c : Char} (h : isSpace c = false) (rest : List Char) :
    token? (c :: rest) = some ⟨c, rest, Nat.lt_succ_self _⟩ := by
  rw [token?, h]
  rfl

/-- The next token follows the blanks before it. -/
theorem token?_of_blanks {blanks : List Char} (hblanks : ∀ b ∈ blanks, isSpace b = true) {c : Char}
    (h : isSpace c = false) (rest : List Char) :
    ∃ shorter, token? (blanks ++ c :: rest) = some ⟨c, rest, shorter⟩ := by
  induction blanks with
  | nil => exact ⟨_, token?_cons h rest⟩
  | cons b blanks ih =>
    obtain ⟨hb, hblanks⟩ := List.forall_mem_cons.1 hblanks
    obtain ⟨shorter, htoken⟩ := ih hblanks
    refine ⟨Nat.lt_succ_of_lt shorter, ?_⟩
    show token? (b :: (blanks ++ c :: rest)) = _
    rw [token?, hb, htoken]
    rfl

/-- A new line is made of blanks. -/
theorem isSpace_of_mem_newLine {depth : Nat} : ∀ b ∈ newLine depth, isSpace b = true := by
  intro b hb
  rcases List.mem_cons.1 hb with rfl | hb
  · rfl
  · rw [List.eq_of_mem_replicate hb]
    rfl

/-! ### Scalars -/

/-- The expected characters are taken, and no more. -/
theorem literal_append (expected rest : List Char) :
    ∃ tail : Tail (expected ++ rest), literal expected (expected ++ rest) = .ok tail ∧
      tail.1 = rest := by
  induction expected with
  | nil => exact ⟨.all rest, rfl, rfl⟩
  | cons e expected ih =>
    obtain ⟨tail, htail, hrest⟩ := ih
    refine ⟨tail.cons e, ?_, hrest⟩
    show literal (e :: expected) (e :: (expected ++ rest)) = _
    rw [literal, if_pos rfl, htail]

/-- A written string, with what follows it. -/
theorem quote_append (text rest : List Char) :
    quote text ++ rest = '"' :: (text.flatMap escape ++ '"' :: rest) := by
  simp [quote]

/-- Reading a value and then changing it. -/
theorem ReadsAs.map {reader : Reader α} {written : List Char} {value : α}
    (h : ReadsAs reader written value) (f : α → β) :
    ReadsAs (reader.map f) written (f value) := by
  obtain ⟨first, inner, hwritten, hspace, hopen, hread⟩ := h
  refine ⟨first, inner, hwritten, hspace, hopen, fun rest => ?_⟩
  obtain ⟨tail, hvalue, hrest⟩ := hread rest
  exact ⟨tail, by rw [Reader.map, hvalue], hrest⟩

/-- A string is read back. -/
theorem readsAs_string (text : String) : ReadsAs string (writeString text) text := by
  refine ⟨'"', text.toList.flatMap escape ++ ['"'], rfl, rfl, by decide, fun rest => ?_⟩
  rw [List.append_assoc]
  obtain ⟨tail, hvalue, hrest⟩ := stringTail_written text.toList rest
  refine ⟨tail, ?_, hrest⟩
  show string '"' (text.toList.flatMap escape ++ '"' :: rest) = _
  rw [string, if_pos rfl, hvalue]
  simp only [String.ofList_toList]

/-- A truth value is read back. -/
theorem readsAs_flag (value : Bool) : ReadsAs flag (writeFlag value) value := by
  cases value with
  | true =>
    refine ⟨'t', ['r', 'u', 'e'], rfl, rfl, by decide, fun rest => ?_⟩
    obtain ⟨tail, hvalue, hrest⟩ := literal_append ['r', 'u', 'e'] rest
    exact ⟨tail, by rw [flag, if_pos rfl, hvalue], hrest⟩
  | false =>
    refine ⟨'f', ['a', 'l', 's', 'e'], rfl, rfl, by decide, fun rest => ?_⟩
    obtain ⟨tail, hvalue, hrest⟩ := literal_append ['a', 'l', 's', 'e'] rest
    exact ⟨tail, by rw [flag, if_neg (by decide), if_pos rfl, hvalue], hrest⟩

/-- A string or none is read back. A string begins with a quote, and so is not taken for none. -/
theorem readsAs_optional (value : Option String) :
    ReadsAs (optional string) (writeOptional value) value := by
  cases value with
  | none =>
    refine ⟨'n', ['u', 'l', 'l'], rfl, rfl, by decide, fun rest => ?_⟩
    obtain ⟨tail, hvalue, hrest⟩ := literal_append ['u', 'l', 'l'] rest
    exact ⟨tail, by rw [optional, if_pos rfl, hvalue], hrest⟩
  | some text =>
    obtain ⟨first, inner, hwritten, hspace, hopen, hread⟩ := (readsAs_string text).map some
    obtain rfl : '"' = first := (List.cons.inj hwritten).1
    refine ⟨'"', inner, hwritten, hspace, hopen, fun rest => ?_⟩
    rw [optional, if_neg (by decide)]
    exact hread rest

/-! ### Arrays -/

variable {reader : Reader α} {blanks written following rest : List Char} {value : α}

/-- What follows an element: a comma and the elements after it, or the end. -/
inductive ElementsFollow (reader : Reader α) (others : List α) (rest : List Char) :
    List Char → Prop
  | comma {following : List Char} (h : Leaves (elements reader false following) others rest) :
      ElementsFollow reader others rest (',' :: following)
  | close (depth : Nat) (h : others = []) :
      ElementsFollow reader others rest (newLine depth ++ ']' :: rest)

/-- An element, and what follows it. -/
theorem elements_element (hblanks : ∀ b ∈ blanks, isSpace b = true)
    (h : ReadsAs reader written value) {others : List α}
    (hafter : ElementsFollow reader others rest following) (atStart : Bool) :
    Leaves (elements reader atStart (blanks ++ (written ++ following))) (value :: others) rest := by
  obtain ⟨first, inner, rfl, hspace, hopen, hread⟩ := h
  obtain ⟨_, hfirst⟩ := token?_of_blanks hblanks hspace (inner ++ following)
  obtain ⟨⟨afterValue, _⟩, hvalue, hleft⟩ := hread following
  obtain rfl : following = afterValue := hleft.symm
  rw [List.cons_append, elements, hfirst]
  simp only [if_neg hopen, hvalue]
  cases hafter with
  | comma hothers =>
    obtain ⟨tail, hothers, rfl⟩ := hothers
    rw [token?_cons rfl]
    simp only [if_neg (show ',' ≠ ']' by decide), if_true, hothers]
    exact ⟨_, rfl, rfl⟩
  | close depth h =>
    obtain ⟨_, hend⟩ := token?_of_blanks isSpace_of_mem_newLine (rfl : isSpace ']' = false) rest
    rw [hend]
    simp only [if_true, h]
    exact ⟨_, rfl, rfl⟩

/-- Elements on lines of their own, up to the end of the array. -/
theorem elements_joined {items : List (List Char)} {values : List α}
    (h : List.Forall₂ (ReadsAs reader) items values) (hne : items ≠ []) (atStart : Bool)
    (inside outside : Nat) (rest : List Char) :
    Leaves (elements reader atStart (joined [','] (items.map (newLine inside ++ ·))
      ++ (newLine outside ++ ']' :: rest))) values rest := by
  induction h generalizing atStart with
  | nil => exact absurd rfl hne
  | @cons item value items values hitem hitems ih =>
    cases hitems with
    | nil =>
      show Leaves (elements reader atStart (newLine inside ++ item ++ _)) _ _
      rw [List.append_assoc]
      exact elements_element isSpace_of_mem_newLine hitem (.close outside rfl) atStart
    | @cons nextItem nextValue items values hnext hothers =>
      have htext : joined [','] ((item :: nextItem :: items).map (newLine inside ++ ·))
            ++ (newLine outside ++ ']' :: rest)
          = newLine inside ++ (item
            ++ ',' :: (joined [','] ((nextItem :: items).map (newLine inside ++ ·))
              ++ (newLine outside ++ ']' :: rest))) := by
        simp [joined]
      rw [htext]
      exact elements_element isSpace_of_mem_newLine hitem (.comma (ih (by simp) false)) atStart

/-- An array is read back if its elements are. -/
theorem readsAs_array {items : List (List Char)} {values : List α}
    (h : List.Forall₂ (ReadsAs reader) items values) (depth : Nat) :
    ReadsAs (array reader) (writeArray depth items) values := by
  cases h with
  | nil =>
    refine ⟨'[', [']'], rfl, rfl, by decide, fun rest => ?_⟩
    show Leaves (array reader '[' (']' :: rest)) [] rest
    rw [array, if_pos rfl, elements, token?_cons rfl]
    exact ⟨_, rfl, rfl⟩
  | @cons item value items values hitem hitems =>
    refine ⟨'[', joined [','] ((item :: items).map (newLine (depth + 1) ++ ·))
      ++ (newLine depth ++ [']']), ?_, rfl, by decide, fun rest => ?_⟩
    · simp [writeArray, block]
    · rw [List.append_assoc, List.append_assoc, array, if_pos rfl]
      exact elements_joined (.cons hitem hitems) (by simp) true _ _ rest

/-! ### Objects -/

variable {fields : List (Field σ)} {draft next final : σ} {name : String} {member : Reader σ}

/-- What follows the value of a member: a comma and the members after it, or the end. -/
inductive MembersFollow (fields : List (Field σ)) (draft final : σ) (rest : List Char) :
    List Char → Prop
  | comma {following : List Char}
      (h : Leaves (members fields draft false following) final rest) :
      MembersFollow fields draft final rest (',' :: following)
  | close (depth : Nat) (h : final = draft) :
      MembersFollow fields draft final rest (newLine depth ++ '\x7d' :: rest)

/-- A member, and what follows it. -/
theorem members_member (hblanks : ∀ b ∈ blanks, isSpace b = true)
    (hfield : memberReader fields draft name.toList = .ok member)
    (h : ReadsAs member written next) (hafter : MembersFollow fields next final rest following)
    (atStart : Bool) :
    Leaves (members fields draft atStart
      (blanks ++ (quote name.toList ++ ([':', ' '] ++ (written ++ following))))) final rest := by
  obtain ⟨first, inner, rfl, hspace, -, hread⟩ := h
  obtain ⟨⟨afterValue, _⟩, hvalue, hleft⟩ := hread following
  obtain rfl : following = afterValue := hleft.symm
  -- What the reader looks for, in its order: a quote, the name, a colon, and a value.
  obtain ⟨_, hquote⟩ := token?_of_blanks hblanks (rfl : isSpace '"' = false)
    (name.toList.flatMap escape ++ '"' :: ':' :: ' ' :: first :: (inner ++ following))
  obtain ⟨⟨_, _⟩, hname, rfl⟩ :=
    stringTail_written name.toList (':' :: ' ' :: first :: (inner ++ following))
  have hcolon := token?_cons (rfl : isSpace ':' = false) (' ' :: first :: (inner ++ following))
  have hfirst : ∃ shorter, token? (' ' :: first :: (inner ++ following))
      = some ⟨first, inner ++ following, shorter⟩ :=
    token?_of_blanks (show ∀ b ∈ [' '], isSpace b = true by simp [isSpace]) hspace _
  obtain ⟨_, hfirst⟩ := hfirst
  rw [quote_append]
  show Leaves (members fields draft atStart (blanks ++ '"' :: (name.toList.flatMap escape
    ++ '"' :: ':' :: ' ' :: first :: (inner ++ following)))) final rest
  rw [members, hquote]
  simp only [if_neg (show '"' ≠ '\x7d' by decide), if_true, hname, hfield, hcolon]
  rw [hfirst]
  simp only [hvalue]
  cases hafter with
  | comma hothers =>
    obtain ⟨tail, hothers, rfl⟩ := hothers
    rw [token?_cons rfl]
    simp only [if_neg (show ',' ≠ '\x7d' by decide), if_true, hothers]
    exact ⟨_, rfl, rfl⟩
  | close depth h =>
    obtain ⟨_, hend⟩ := token?_of_blanks isSpace_of_mem_newLine (rfl : isSpace '\x7d' = false) rest
    rw [hend]
    simp only [if_true, h]
    exact ⟨_, rfl, rfl⟩

/-- A member as it stands on a line of its own. -/
def memberLine (depth : Nat) (item : String × List Char) : List Char :=
  newLine depth ++ (quote item.1.toList ++ ([':', ' '] ++ item.2))

/-- Members on lines of their own, up to the end of the object. -/
theorem members_joined {items : List (String × List Char)} (h : Fills fields draft items final)
    (hne : items ≠ []) (atStart : Bool) (inside outside : Nat) (rest : List Char) :
    Leaves (members fields draft atStart (joined [','] (items.map (memberLine inside))
      ++ (newLine outside ++ '\x7d' :: rest))) final rest := by
  -- By the members, each of them read into the draft that the one before it left.
  induction h generalizing atStart with
  | nil draft => exact absurd rfl hne
  | @cons draft next final name written reader items hfield hreads hothers ih =>
    cases items with
    | nil =>
      have hfinal : final = next := by
        cases hothers
        rfl
      have htext : joined [','] ([(name, written)].map (memberLine inside))
            ++ (newLine outside ++ '\x7d' :: rest)
          = newLine inside ++ (quote name.toList ++ ([':', ' '] ++ (written
            ++ (newLine outside ++ '\x7d' :: rest)))) := by
        simp [joined, memberLine]
      rw [htext]
      exact members_member isSpace_of_mem_newLine hfield hreads (.close outside hfinal) atStart
    | cons item items =>
      have htext : joined [','] (((name, written) :: item :: items).map (memberLine inside))
            ++ (newLine outside ++ '\x7d' :: rest)
          = newLine inside ++ (quote name.toList ++ ([':', ' '] ++ (written
            ++ ',' :: (joined [','] ((item :: items).map (memberLine inside))
              ++ (newLine outside ++ '\x7d' :: rest))))) := by
        simp [joined, memberLine]
      rw [htext]
      exact members_member isSpace_of_mem_newLine hfield hreads
        (.comma (ih (by simp) false)) atStart

/-- A record is read back if its members fill a draft that is finished to it. -/
theorem readsAs_record {items : List (String × List Char)} {finish : σ → Option α}
    (h : Fills fields draft items final) (hfinish : finish final = some value) (depth : Nat) :
    ReadsAs (record fields draft finish) (writeObject depth items) value := by
  have hmembers : ∃ inner, writeObject depth items = '\x7b' :: inner ∧
      ∀ rest, Leaves (members fields draft true (inner ++ rest)) final rest := by
    cases items with
    | nil =>
      refine ⟨['\x7d'], rfl, fun rest => ?_⟩
      cases h
      show Leaves (members fields draft true ('\x7d' :: rest)) draft rest
      rw [members, token?_cons rfl]
      exact ⟨_, rfl, rfl⟩
    | cons item items =>
      refine ⟨joined [','] ((item :: items).map (memberLine (depth + 1)))
        ++ (newLine depth ++ ['\x7d']), ?_, fun rest => ?_⟩
      · have hline : memberLine (depth + 1) = fun item =>
            newLine (depth + 1) ++ (quote item.1.toList ++ ([':', ' '] ++ item.2)) := rfl
        simp [writeObject, block, hline, Function.comp_def]
      · rw [List.append_assoc, List.append_assoc]
        exact members_joined h (by simp) true _ _ rest
  obtain ⟨inner, hwritten, hread⟩ := hmembers
  refine ⟨'\x7b', inner, hwritten, rfl, by decide, fun rest => ?_⟩
  obtain ⟨tail, hresult, hrest⟩ := hread rest
  refine ⟨tail, ?_, hrest⟩
  rw [record, if_pos rfl, hresult]
  simp only [hfinish]

/-! ### Whole texts -/

/-- A text that is a written value holds that value and nothing else. -/
theorem read_of_readsAs (h : ReadsAs reader written value) : read reader written = .ok value := by
  obtain ⟨first, inner, rfl, hspace, -, hread⟩ := h
  have hwhole : Leaves (reader first inner) value [] := by
    have hread := hread []
    rwa [List.append_nil] at hread
  obtain ⟨⟨_, _⟩, hvalue, rfl⟩ := hwhole
  rw [read, token?_cons hspace]
  simp only [hvalue]
  rfl

end

end Radius.Json
