import CardEffects.Proofs.Registry.Entries
import CardEffects.Proofs.Registry.Provenance

/-!
# What a call can change

A call that is to register a card is all or nothing. If the card is refused the registry is the
same as before, down to the number that it gives out next, so that the identity the card was refused
under is as free as it was. If the card is registered there is one entry more, and every other entry
is the same. Setting a setting leaves the entries alone. So an entry that is there once is there for
good.

* `Registry.AddedUnder`: two registries that differ in one entry, which the first does not have.
* `Registry.after_eq_self_of_error`, `Registry.addedUnder_of_ok`: what a call has changed, by its
  answer.
* `Registry.calls_confined`: what calls and runs can change.
-/

namespace CardEffects.Registry

/-- The registry `after` has the entries of `before` and one more, under an identity that was free
there; and the settings are the same. -/
structure AddedUnder (id : Card.Id) (before after : Registry) : Prop where
  free : before.contains id = false
  taken : after.contains id = true
  get?_eq : ∀ other, other ≠ id → after.get? other = before.get? other
  size_eq : after.size = before.size + 1
  validation_eq : after.validation = before.validation
  policy_eq : after.policy = before.policy

variable {registry : Registry} {call : Call} {card : Card} {id : Card.Id}
  {instructions : List Instruction}

/-- A new entry makes a registry larger by one. -/
theorem size_insert (hfree : registry.contains card.id = false) :
    (registry.insert card instructions).size = registry.size + 1 := by
  have hkey : registry.entries.contains card.id = false := by
    rw [Std.ExtTreeMap.contains_eq_isSome_getElem?]
    exact hfree
  rw [size, insert, Std.ExtTreeMap.size_insert, hkey]
  rfl

/-- An entry under an identity that was free is the only one that is added. -/
theorem addedUnder_insert (hid : card.id = id) (hfree : registry.contains id = false) :
    AddedUnder id registry (registry.insert card instructions) where
  free := hfree
  taken := contains_insert_iff.2 (.inl hid)
  get?_eq other hother := by rw [get?_insert, hid, if_neg hother.symm]
  size_eq := size_insert (hid ▸ hfree)
  validation_eq := rfl
  policy_eq := rfl

/-- Only calls that are to register a card are answered. -/
theorem isSome_card?_of_answer {answer : Except Refusal Card.Id}
    (h : registry.answer call = some answer) : call.card?.isSome = true := by
  rcases call with validation | policy | card | card
  · cases h
  · cases h
  · rfl
  · rfl

/-- A call that is answered with a refusal changes nothing. -/
theorem after_eq_self_of_error {refusal : Refusal}
    (h : registry.answer call = some (.error refusal)) : registry.after call = registry := by
  apply after_eq_self (isSome_card?_of_answer h)
  rw [h]
  exact nofun

/-- A call that is answered with an identity adds an entry under it. -/
theorem addedUnder_of_ok (h : registry.answer call = some (.ok id)) :
    AddedUnder id registry (registry.after call) := by
  rcases after_cases registry call with
    ⟨hrefused, -⟩ | ⟨card, found, instructions, -, -, hanswer, hfree, -, hafter⟩
  · exact absurd h (hrefused id)
  · rw [h] at hanswer
    cases hanswer
    rw [hafter]
    exact addedUnder_insert rfl hfree

/-- A call that is not to register a card leaves the entries and the next number as they are. -/
theorem entries_after_of_setting (h : call.card? = none) :
    (registry.after call).entries = registry.entries ∧
      (registry.after call).nextNumber = registry.nextNumber := by
  rcases call with validation | policy | card | card
  · exact ⟨rfl, rfl⟩
  · exact ⟨rfl, rfl⟩
  · cases h
  · cases h

/-- A card that is refused for its effect text is refused under an identity that is free. -/
theorem not_contains_of_effect {source : Effect.Error}
    (h : registry.answer call = some (.error (.effect id source))) :
    registry.contains id = false := by
  -- Whether the identity is taken is looked up before the effect text is read.
  have hregister (card : Card)
      (hcard : (registry.register card).1 = .error (.effect id source)) :
      registry.contains id = false := by
    rcases register_cases registry card with
      ⟨-, heq⟩ | ⟨hfree, ⟨instructions, -, heq⟩ | ⟨found, -, heq⟩⟩
    · rw [heq] at hcard
      cases hcard
    · rw [heq] at hcard
      cases hcard
    · rw [heq] at hcard
      cases hcard
      exact hfree
  rcases call with validation | policy | card | card
  · cases h
  · cases h
  · exact hregister card (Option.some.inj h)
  · exact hregister _ (Option.some.inj h)

/-- Calls and runs are confined. A refusal changes nothing. An answer with an identity means that
there is one entry more, under that identity, which was free. Setting a setting leaves the entries
and the next number as they are. So an entry stays as it is through every run; and a card whose
effect text is an effect can be registered right after another was refused, for its effect text,
under the same identity. -/
theorem calls_confined (registry : Registry) :
    (∀ call refusal, registry.answer call = some (.error refusal) →
        registry.after call = registry) ∧
      (∀ call id, registry.answer call = some (.ok id) →
        AddedUnder id registry (registry.after call)) ∧
      (∀ call, call.card? = none → (registry.after call).entries = registry.entries ∧
        (registry.after call).nextNumber = registry.nextNumber) ∧
      (∀ id entry, registry.get? id = some entry →
        ∀ calls, (registry.afterAll calls).get? id = some entry) ∧
      ∀ call id source, registry.answer call = some (.error (.effect id source)) →
        ∀ card instructions, card.id = id →
          card.instructions registry.validation = .ok instructions →
            ((registry.after call).register card).1 = .ok id := by
  refine ⟨fun call refusal => after_eq_self_of_error, fun call id => addedUnder_of_ok,
    fun call => entries_after_of_setting, fun id entry => get?_afterAll, ?_⟩
  rintro call id source hrefused card instructions rfl hread
  rw [after_eq_self_of_error hrefused,
    register_of_load_ok (not_contains_of_effect hrefused) (load_of_ok hread)]

/-- A refused card takes neither its identity nor the next one. -/
example :
    let registry := empty.after (.register { id := ⟨10⟩, name := "Island", kind := .land })
    let broken : Card := { id := ⟨20⟩, name := "Ruin", kind := .spell, effect := "haste; inc" }
    (∃ source, registry.answer (.registerNext broken) = some (.error (.effect ⟨11⟩ source))) ∧
      (registry.after (.registerNext broken)).answer
        (.registerNext { broken with effect := "haste" }) = some (.ok ⟨11⟩) :=
  ⟨⟨_, rfl⟩, rfl⟩

end CardEffects.Registry
