import Radius.Proofs.Dictionary.History

/-!
# `Radius.Proofs.Dictionary.Names`: names that lead nowhere

Two types can carry one name, and the name then leads to the type that took it last. When one of
the two is registered again under another name, the name is dropped from the table of names, even
if it leads to the other type. That type carries a name that leads nowhere from then on.

* `type?_eq_none_iff`: a name leads nowhere exactly if no type carries it, or if it was `Dropped`:
  a type gave it up, and no registration took it since.
* `reaches_iff_not_dropped`: so much of the intent holds. A name that a type carries leads to a
  type that carries it exactly if it was not dropped, and attributes can be made for it then.
* `not_reaches_of_name?`: the intent itself, that every name that a type carries leads to one,
  fails after three registrations.
-/

set_option autoImplicit false

namespace Radius.Dictionary

/-- A type gave the name up for another one, and no registration took the name since. -/
def Dropped (start : Dictionary) (calls : List Registration) (name : String) : Prop :=
  ∃ before call after, calls = before ++ call :: after ∧
    (start.registerAll before).name? call.type = some name ∧ call.name ≠ name ∧
    ∀ later ∈ after, later.name ≠ name

section
variable {start : Dictionary} {name : String}

/-- Nothing is dropped before the first registration. -/
theorem not_dropped_nil : ¬ Dropped start [] name := by
  rintro ⟨before, call, after, hsplit, -⟩
  cases before <;> cases hsplit

/-- A name is dropped after a registration if the registration does not take it, and gives it up or
finds it dropped. -/
theorem dropped_concat_iff {calls : List Registration} {call : Registration} :
    Dropped start (calls ++ [call]) name ↔
      call.name ≠ name ∧
        ((start.registerAll calls).name? call.type = some name ∨ Dropped start calls name) := by
  constructor
  · rintro ⟨before, given, after, hsplit, hcarried, hother, hafter⟩
    -- The registration that gave the name up is the last one, or one before it.
    rcases List.eq_nil_or_concat after with rfl | ⟨others, last, rfl⟩
    · obtain ⟨rfl, hlast⟩ := List.append_inj' hsplit rfl
      cases hlast
      exact ⟨hother, .inl hcarried⟩
    · rw [List.concat_eq_append, ← List.cons_append, ← List.append_assoc] at hsplit
      obtain ⟨rfl, hlast⟩ := List.append_inj' hsplit rfl
      cases hlast
      rw [List.concat_eq_append] at hafter
      refine ⟨hafter call (by simp), .inr ⟨before, given, others, rfl, hcarried, hother, ?_⟩⟩
      exact fun later hlater => hafter later (List.mem_append_left _ hlater)
  · rintro ⟨hother, hcarried | ⟨before, given, after, rfl, hcarried, hgiven, hafter⟩⟩
    · exact ⟨calls, call, [], rfl, hcarried, hother, nofun⟩
    · refine ⟨before, given, after ++ [call], by simp, hcarried, hgiven, ?_⟩
      intro later hlater
      rcases List.mem_append.1 hlater with hlater | hlater
      · exact hafter later hlater
      · rw [List.mem_singleton.1 hlater]
        exact hother

/-- Nobody carries a name after a registration if the registration did not take it, and no other
type carried it before. -/
theorem nobody_register_iff {dictionary : Dictionary} {type : UInt8} {new : String}
    {codec : Codec} :
    (∀ sought, (dictionary.register type new codec).name? sought ≠ some name) ↔
      new ≠ name ∧ ∀ sought, sought ≠ type → dictionary.name? sought ≠ some name := by
  simp only [name?_register]
  constructor
  · intro h
    refine ⟨?_, fun sought hsought => ?_⟩
    · simpa using h type
    · simpa [hsought] using h sought
  · rintro ⟨hnew, hothers⟩ sought
    by_cases hsought : sought = type
    · rw [if_pos hsought]
      simpa using hnew
    · rw [if_neg hsought]
      exact hothers sought hsought

/-- Which names lead nowhere: those that no type carries, and those that were dropped. -/
theorem type?_eq_none_iff (h : start.Exact) (calls : List Registration) (name : String) :
    (start.registerAll calls).type? name = none ↔
      (∀ type, (start.registerAll calls).name? type ≠ some name) ∨ Dropped start calls name := by
  -- By the registrations, the last one first. It takes the name, gives it up, or leaves it alone.
  induction calls using List.reverseRecOn with
  | nil =>
    rw [or_iff_left not_dropped_nil]
    show start.type? name = none ↔ ∀ type, start.name? type ≠ some name
    simp only [Option.eq_none_iff_forall_ne_some, ne_eq, h name]
  | append_singleton calls call ih =>
    rw [dropped_concat_iff, registerAll_concat, type?_register, nobody_register_iff]
    by_cases htaken : name = call.name
    · rw [if_pos htaken]
      simp [htaken]
    rw [if_neg htaken]
    by_cases hgiven : (start.registerAll calls).name? call.type = some name
    · rw [if_pos hgiven]
      exact ⟨fun _ => .inr ⟨Ne.symm htaken, .inl hgiven⟩, fun _ => rfl⟩
    rw [if_neg hgiven, ih]
    -- The type of the registration did not carry the name before, so it was one of the others.
    have hothers : (∀ type, (start.registerAll calls).name? type ≠ some name) ↔
        ∀ type, type ≠ call.type → (start.registerAll calls).name? type ≠ some name := by
      refine ⟨fun h type _ => h type, fun h type => ?_⟩
      by_cases htype : type = call.type
      · rw [htype]
        exact hgiven
      · exact h type htype
    simp only [hothers, hgiven, ne_eq, Ne.symm htaken, not_false_eq_true, true_and, false_or]

/-- A look-up by name knows no type exactly if the name leads nowhere. -/
theorem resolve_eq_invalidName_iff {dictionary : Dictionary} {value : Value} :
    dictionary.resolve name value = .error (.invalidName name) ↔ dictionary.type? name = none := by
  rcases dictionary.resolve_cases name value with
    ⟨htype, hresolve⟩ | ⟨type, htype, ⟨stored, hresolve⟩ | ⟨cause, hresolve⟩⟩
  · simp [htype, hresolve]
  · simp [htype, hresolve]
  · simp [htype, hresolve]

/-- A name that a type carries, after any registrations, leads to a type that carries it exactly if
it was not dropped. It is refused as unknown, with any value, exactly if it was. -/
theorem reaches_iff_not_dropped [Digest] {made : List Registration} (h : Origin start made)
    (calls : List Registration) {type : UInt8}
    (hname : (start.registerAll calls).name? type = some name) :
    ((∃ found, (start.registerAll calls).type? name = some found ∧
        (start.registerAll calls).name? found = some name) ↔ ¬ Dropped start calls name) ∧
    ∀ value, (start.registerAll calls).resolve name value = .error (.invalidName name) ↔
      Dropped start calls name := by
  have hindexed := indexed_registerAll h.exact.indexed calls
  have hnone : (start.registerAll calls).type? name = none ↔ Dropped start calls name := by
    rw [type?_eq_none_iff h.exact, or_iff_right]
    exact fun hnobody => hnobody type hname
  refine ⟨?_, fun value => resolve_eq_invalidName_iff.trans hnone⟩
  rw [← hnone, ← ne_eq, Option.ne_none_iff_exists']
  constructor
  · rintro ⟨found, hfound, -⟩
    exact ⟨found, hfound⟩
  · rintro ⟨found, hfound⟩
    exact ⟨found, hfound, hindexed name found hfound⟩

end

/-- Two types are registered under one name, and the first of them is renamed. -/
def renamedAway : List Registration :=
  [⟨1, "a", .text⟩, ⟨2, "a", .text⟩, ⟨1, "c", .text⟩]

/-- The second type still carries the name. It was dropped, so nothing can be made for it. -/
theorem reaches_iff_not_dropped_renamedAway :
    (empty.registerAll renamedAway).name? 2 = some "a" ∧
      Dropped empty renamedAway "a" ∧
      (empty.registerAll renamedAway).resolve "a" (.text "x")
        = .error (.invalidName "a") ∧
      -- Before the renaming the name leads to the second type, although the first one has it too.
      ∃ found, (empty.registerAll (renamedAway.take 2)).type? "a" = some found ∧
        (empty.registerAll (renamedAway.take 2)).name? found = some "a" := by
  have hname : (empty.registerAll renamedAway).name? 2 = some "a" := by decide +kernel
  have hshared : (empty.registerAll (renamedAway.take 2)).name? 1 = some "a" := by decide +kernel
  have hdropped : Dropped empty renamedAway "a" :=
    ⟨renamedAway.take 2, ⟨1, "c", .text⟩, [], rfl, hshared, by decide, nofun⟩
  have hkept : ¬ Dropped empty (renamedAway.take 2) "a" := by
    intro h
    have hlast : Dropped empty ([⟨1, "a", .text⟩] ++ [⟨2, "a", .text⟩]) "a" := h
    exact (dropped_concat_iff.1 hlast).1 rfl
  exact ⟨hname, hdropped, ((reaches_iff_not_dropped .empty renamedAway hname).2 _).2 hdropped,
    (reaches_iff_not_dropped .empty (renamedAway.take 2) hshared).1.2 hkept⟩

/-- A name that a type carries need not lead to any type. -/
theorem not_reaches_of_name? :
    ¬ ∀ (start : Dictionary) (made calls : List Registration) (type : UInt8) (name : String),
      Origin start made → (start.registerAll calls).name? type = some name →
      ∃ found, (start.registerAll calls).type? name = some found ∧
        (start.registerAll calls).name? found = some name := by
  intro h
  obtain ⟨found, hfound, -⟩ := h .empty [] renamedAway 2 "a" .empty (by decide +kernel)
  rw [show (Dictionary.empty.registerAll renamedAway).type? "a" = none by decide +kernel] at hfound
  cases hfound

end Radius.Dictionary
