import CardEffects.Proofs.Card.Grant
import CardEffects.Proofs.Registry.Entries
import CardEffects.Proofs.Registry.Run
import Mathlib.Data.List.Nodup

/-!
# Where entries come from

Every entry of a registry goes back to one call, the one that was answered with its identity. What
the entry holds is told by the card of that call and by the settings that were in force then;
whatever is called afterwards makes no difference to it.

* `Registry.RegistersAs`: a call of a run that is answered with an identity.
* `Registry.Entry.Explained`: an entry holds what its registration makes of the card.
* `Registry.run_explained`: the entries that a run leaves are those that its calls register.
-/

namespace CardEffects.Registry

/-- In a run the call with the given index is to register the card, and is answered with the
identity. -/
structure RegistersAs (calls : List Call) (index : ℕ) (card : Card) (id : Card.Id) : Prop where
  card_eq : calls[index]?.bind Call.card? = some card
  answer_eq : (empty.answers calls)[index]? = some (some (.ok id))

/-- An entry holds what registering the card under the identity makes of it where effect texts are
read in the given way. The card is as it was submitted, but for its identity and its abilities. Of
these it keeps the ones it had, and behind them come those of its instructions that wait for no
event, so far as they are new, each once and where it is first named. The instructions are those of
its effect text, or none if that is no effect and the policy tolerates it. -/
structure Entry.Explained (entry : Entry) (submitted : Card) (id : Card.Id)
    (validation : Validation) (policy : Policy) : Prop where
  card_eq : entry.card = { submitted with id, abilities := entry.card.abilities }
  abilities_eq : entry.card.abilities = submitted.abilities ++
    (((entry.instructions.filter fun instruction => instruction.trigger = none).filterMap
      (·.ability)).filter (· ∉ submitted.abilities)).eraseDups
  instructions_eq : Effect.parse validation submitted.effect = .ok entry.instructions ∨
    (∃ error, Effect.parse validation submitted.effect = .error error) ∧
      policy = .tolerate ∧ entry.instructions = []

variable {registry : Registry} {calls : List Call} {card : Card} {id : Card.Id} {index : ℕ}

/-! ## One registration -/

/-- A call registers a card exactly if the registry that it finds answers it so. -/
theorem registersAs_iff :
    RegistersAs calls index card id ↔ ∃ call, calls[index]? = some call ∧ call.card? = some card ∧
      (run (calls.take index)).answer call = some (.ok id) := by
  have hanswer := getElem?_answers empty calls index
  constructor
  · rintro ⟨hcard, hid⟩
    obtain ⟨call, hcall, hcard⟩ := Option.bind_eq_some_iff.1 hcard
    rw [hanswer, hcall] at hid
    exact ⟨call, hcall, hcard, Option.some.inj hid⟩
  · rintro ⟨call, hcall, hcard, hid⟩
    refine ⟨?_, ?_⟩
    · rw [hcall, Option.bind_some, hcard]
    · rw [hanswer, hcall, Option.map_some, ← hid]
      rfl

/-- A card that is loaded is added with the instructions and the abilities that its effect text
gives it. -/
theorem explained_of_load {instructions : List Instruction}
    (h : registry.load card = .ok instructions) (id : Card.Id) :
    Entry.Explained ⟨{ card with id }.grant instructions, instructions⟩ card id
      registry.validation registry.policy := by
  refine ⟨rfl, Card.abilities_grant _ instructions, ?_⟩
  rw [load] at h
  split at h
  · next error hpolicy hread =>
    cases h
    exact .inr ⟨⟨error, hread⟩, hpolicy, rfl⟩
  · exact .inl h

/-- An entry stays as it is, whatever is called. -/
theorem get?_after {entry : Entry} (h : registry.get? id = some entry) (call : Call) :
    (registry.after call).get? id = some entry := by
  rcases after_cases registry call with
    ⟨-, hafter⟩ | ⟨card, found, instructions, -, -, -, hfree, -, hafter⟩
  · rw [hafter]
    exact h
  · -- The new entry stands under an identity that was free, so under another one.
    have hne : found ≠ id := by
      rintro rfl
      rw [contains, h] at hfree
      cases hfree
    rw [hafter, get?_insert, if_neg hne]
    exact h

/-- An entry stays as it is over a whole run. -/
theorem get?_afterAll {entry : Entry} (h : registry.get? id = some entry) (calls : List Call) :
    (registry.afterAll calls).get? id = some entry := by
  induction calls generalizing registry with
  | nil => exact h
  | cons call calls ih => exact ih (get?_after h call)

/-- What a call registers was free before and is explained by the call at the end of the run. -/
theorem RegistersAs.exists_explained (h : RegistersAs calls index card id) :
    (run (calls.take index)).contains id = false ∧
      (calls[index]? = some (.register card) → id = card.id) ∧
      ∃ entry, (run calls).get? id = some entry ∧
        entry.Explained card id (validationInForce (calls.take index))
          (policyInForce (calls.take index)) := by
  obtain ⟨call, hcall, hcard, hanswer⟩ := registersAs_iff.1 h
  rcases after_cases (run (calls.take index)) call with
    ⟨hrefused, -⟩ | ⟨found, id', instructions, hfound, hid, hok, hfree, hload, hafter⟩
  · exact absurd hanswer (hrefused id)
  · rw [hcard] at hfound
    rw [hanswer] at hok
    cases hfound
    cases hok
    refine ⟨hfree, fun hregister => hid ?_,
      ⟨{ card with id }.grant instructions, instructions⟩, ?_, ?_⟩
    · rw [hcall] at hregister
      exact Option.some.inj hregister
    · -- No later call makes a difference to the entry.
      rw [run_eq_of_getElem? hcall]
      refine get?_afterAll ?_ _
      rw [hafter, get?_insert, if_pos rfl]
    · rw [← validation_run, ← policy_run]
      exact explained_of_load hload id

/-! ## All registrations of a run -/

theorem RegistersAs.contains (h : RegistersAs calls index card id) :
    (run calls).contains id = true := by
  obtain ⟨-, -, entry, hentry, -⟩ := h.exists_explained
  exact contains_iff.2 ⟨entry, hentry⟩

theorem RegistersAs.lt_length (h : RegistersAs calls index card id) : index < calls.length := by
  obtain ⟨call, hcall, -⟩ := registersAs_iff.1 h
  exact (List.getElem?_eq_some_iff.1 hcall).1

/-- A call registers a card in a run exactly if it does in the part of the run up to it. -/
theorem registersAs_take_iff {count : ℕ} (hlt : index < count) :
    RegistersAs (calls.take count) index card id ↔ RegistersAs calls index card id := by
  rw [registersAs_iff, registersAs_iff, List.getElem?_take_of_lt hlt, List.take_take,
    Nat.min_eq_left (Nat.le_of_lt hlt)]

/-- After a call has registered a card under an identity, no other call does. -/
theorem RegistersAs.not_registersAs_of_lt (h : RegistersAs calls index card id) {later : ℕ}
    (hlt : index < later) (other : Card) : ¬ RegistersAs calls later other id := by
  intro hlater
  -- By then the identity is taken, and a call is answered with one that was free.
  have htaken := ((registersAs_take_iff hlt).2 h).contains
  rw [hlater.exists_explained.1] at htaken
  cases htaken

/-- No identity is the answer to two calls of a run. -/
theorem RegistersAs.index_eq {later : ℕ} {other : Card} (h : RegistersAs calls index card id)
    (hlater : RegistersAs calls later other id) : index = later := by
  rcases Nat.lt_trichotomy index later with hlt | heq | hgt
  · exact absurd hlater (h.not_registersAs_of_lt hlt other)
  · exact heq
  · exact absurd h (hlater.not_registersAs_of_lt hgt card)

/-- What a call registers in a run, it registers in a longer one. -/
theorem RegistersAs.append_singleton (h : RegistersAs calls index card id) (call : Call) :
    RegistersAs (calls ++ [call]) index card id := by
  have htake : (calls ++ [call]).take calls.length = calls := List.take_left
  rw [← registersAs_take_iff h.lt_length, htake]
  exact h

/-- Every identity that is taken after a run was taken by one of its calls. -/
theorem exists_registersAs_of_contains (h : (run calls).contains id = true) :
    ∃ index card, RegistersAs calls index card id := by
  -- From the last call backwards: it took the identity, or the identity was taken before it.
  induction calls using List.reverseRecOn with
  | nil => simp [run, Registry.contains] at h
  | append_singleton calls call ih =>
    rw [run_append_singleton] at h
    rcases after_cases (run calls) call with
      ⟨-, hafter⟩ | ⟨card, found, instructions, hcard, -, hanswer, -, -, hafter⟩
    · rw [hafter] at h
      obtain ⟨index, card, hregisters⟩ := ih h
      exact ⟨index, card, hregisters.append_singleton call⟩
    · rw [hafter, contains_insert_iff] at h
      rcases h with rfl | h
      · refine ⟨calls.length, card, registersAs_iff.2 ⟨call, by simp, hcard, ?_⟩⟩
        rw [List.take_left]
        exact hanswer
      · obtain ⟨index, card, hregisters⟩ := ih h
        exact ⟨index, card, hregisters.append_singleton call⟩

/-- The entries that a run leaves are those that its calls register. An identity is taken exactly
if some call is answered with it, and at most one call is. Each is listed once, and there is nothing
else in the list. A card that is registered under its own identity keeps it; and what an entry holds
is explained by its call and by the settings in force at that call, whatever the run sets later. -/
theorem run_explained (calls : List Call) :
    (∀ id, (run calls).contains id = true ↔ ∃ index card, RegistersAs calls index card id) ∧
      (∀ id index later card other, RegistersAs calls index card id →
        RegistersAs calls later other id → index = later) ∧
      (∀ id, (run calls).contains id = true →
        ((run calls).toList.map (·.card.id)).count id = 1) ∧
      (∀ entry, entry ∈ (run calls).toList ↔ (run calls).get? entry.card.id = some entry) ∧
      (run calls).toList.length = (run calls).size ∧
      ∀ index card id, RegistersAs calls index card id →
        (calls[index]? = some (.register card) → id = card.id) ∧
          ∃ entry, (run calls).get? id = some entry ∧
            entry.Explained card id (validationInForce (calls.take index))
              (policyInForce (calls.take index)) := by
  have hkeyed := (reachable_run calls).keyed
  refine ⟨fun id => ?_, fun _ _ _ _ _ => RegistersAs.index_eq, fun id hid => ?_,
    fun entry => hkeyed.mem_toList_iff, length_toList _, fun index card id h => ?_⟩
  · constructor
    · exact exists_registersAs_of_contains
    · rintro ⟨index, card, h⟩
      exact h.contains
  · exact List.count_eq_one_of_mem hkeyed.nodup_ids (hkeyed.mem_ids_iff.2 hid)
  · exact h.exists_explained.2

end CardEffects.Registry
