import CardEffects.Registry

/-!
# Histories of a registry

A registry is built from the empty one by calls, in any order and however they turn out. What holds
of every registry with such a history is shown of the ways in which one call changes a registry, of
which there are two: the settings are set, or one card is added under an identity that was free.

* `Registry.Reachable`: the registries with a history.
* `Registry.Change`, `Registry.change_after`: the ways in which a call changes a registry.
* `Registry.Reachable.of_change`: what every change keeps holds of every registry with a history.
-/

namespace CardEffects.Registry

/-- What can be asked of a registry and may change it. -/
inductive Call
  | setValidation (validation : Validation)
  | setPolicy (policy : Policy)
  | register (card : Card)
  | registerNext (card : Card)
deriving DecidableEq, Repr

/-- The registry that a call leaves, whatever the outcome for the card. -/
def after (registry : Registry) : Call → Registry
  | .setValidation validation => registry.setValidation validation
  | .setPolicy policy => registry.setPolicy policy
  | .register card => (registry.register card).2
  | .registerNext card => (registry.registerNext card).2

/-- The registries that calls lead to from the empty one. -/
inductive Reachable : Registry → Prop
  | empty : Reachable empty
  | after {registry : Registry} (call : Call) : Reachable registry → Reachable (registry.after call)

/-- The ways in which a call changes a registry. -/
inductive Change (registry : Registry) : Registry → Prop
  /-- The settings are set, perhaps to what they were. The cards and the next number stay. -/
  | settings (validation : Validation) (policy : Policy) :
      Change registry { registry with validation, policy }
  /-- A card is added under an identity that was free. -/
  | insert {card : Card} {instructions : List Instruction}
      (hfree : registry.contains card.id = false) (hload : registry.load card = .ok instructions) :
      Change registry (registry.insert card instructions)

variable {registry : Registry}

section

variable {card : Card} {instructions : List Instruction} {source : Effect.Error}

/-- A card whose effect text is an effect is loaded with its instructions under either policy. -/
theorem load_of_ok (h : card.instructions registry.validation = .ok instructions) :
    registry.load card = .ok instructions := by
  unfold load
  rw [h]
  cases registry.policy <;> rfl

/-- Under the policy to refuse, a card is loaded if its effect text is an effect. -/
theorem load_of_refuse (hpolicy : registry.policy = .refuse) :
    registry.load card = card.instructions registry.validation := by
  rw [load, hpolicy]

/-- Under the policy to tolerate, a card whose text is no effect is loaded without instructions. -/
theorem load_of_tolerate (hpolicy : registry.policy = .tolerate)
    (h : card.instructions registry.validation = .error source) : registry.load card = .ok [] := by
  rw [load, hpolicy, h]

end

/-- A card is refused because its identity is taken, or is added, or is refused because it cannot be
loaded. -/
theorem register_cases (registry : Registry) (card : Card) :
    (registry.contains card.id = true ∧
        registry.register card = (.error (.taken card.id), registry)) ∨
      registry.contains card.id = false ∧
        ((∃ instructions, registry.load card = .ok instructions ∧
            registry.register card = (.ok card.id, registry.insert card instructions)) ∨
          ∃ source, registry.load card = .error source ∧
            registry.register card = (.error (.effect card.id source), registry)) := by
  cases hcontains : registry.contains card.id with
  | true => exact .inl ⟨rfl, register_of_contains hcontains⟩
  | false =>
    refine .inr ⟨rfl, ?_⟩
    cases hload : registry.load card with
    | ok instructions => exact .inl ⟨instructions, rfl, register_of_load_ok hcontains hload⟩
    | error source => exact .inr ⟨source, rfl, register_of_load_error hcontains hload⟩

theorem change_self (registry : Registry) : Change registry registry :=
  .settings registry.validation registry.policy

/-- A card is not registered and nothing changes, or it is added under its identity, which was
free. -/
theorem unchanged_or_registered (registry : Registry) (card : Card) :
    ((∀ id, (registry.register card).1 ≠ .ok id) ∧ (registry.register card).2 = registry) ∨
      ∃ instructions, (registry.register card).1 = .ok card.id ∧
        registry.contains card.id = false ∧ registry.load card = .ok instructions ∧
        (registry.register card).2 = registry.insert card instructions := by
  rcases register_cases registry card with
    ⟨-, h⟩ | ⟨hfree, ⟨instructions, hload, h⟩ | ⟨source, -, h⟩⟩
  · rw [h]
    exact .inl ⟨nofun, rfl⟩
  · rw [h]
    exact .inr ⟨instructions, rfl, hfree, hload, rfl⟩
  · rw [h]
    exact .inl ⟨nofun, rfl⟩

/-- Registering a card leaves a registry alone or adds the card to it. -/
theorem change_register (registry : Registry) (card : Card) :
    Change registry (registry.register card).2 := by
  rcases unchanged_or_registered registry card with ⟨-, h⟩ | ⟨instructions, -, hfree, hload, h⟩
  · rw [h]
    exact change_self registry
  · rw [h]
    exact .insert hfree hload

/-- A call changes a registry in one of the two ways. -/
theorem change_after (registry : Registry) (call : Call) :
    Change registry (registry.after call) := by
  cases call with
  | setValidation validation => exact .settings validation registry.policy
  | setPolicy policy => exact .settings registry.validation policy
  | register card => exact change_register registry card
  | registerNext card => exact change_register registry _

/-- What holds of the empty registry and is kept by every change holds of every registry with a
history. -/
theorem Reachable.of_change {P : Registry → Prop} (hempty : P Registry.empty)
    (hchange : ∀ {before after}, Change before after → P before → P after)
    (h : Reachable registry) : P registry := by
  induction h with
  | empty => exact hempty
  | after call _ ih => exact hchange (change_after _ call) ih

end CardEffects.Registry
