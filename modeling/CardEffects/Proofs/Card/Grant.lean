import CardEffects.Card
import Mathlib.Data.List.Nodup

/-!
# Granting abilities

The abilities that instructions grant are added one by one, each unless the card has it by then.
Taken together they are a union that keeps order: what the card had comes first, unchanged, and the
new abilities follow in the order in which they are first named.

* `Ability.foldl_addTo`: the union as a list.
* `Card.abilities_grant`: the abilities of a card after a grant.
* `Card.grant_grant`: instructions that have granted their abilities grant no more.
* `Card.grant_append`: instructions grant together what they grant one after the other.
* `Card.grant_union`: the laws of the union, for the abilities of a card.
-/

namespace CardEffects

namespace Ability

variable {abilities added : List Ability}

/-- Abilities that are added one by one come behind those that were there, so far as they are new,
each once and in the order in which they are first added. -/
theorem foldl_addTo (abilities added : List Ability) :
    added.foldl addTo abilities = abilities ++ (added.filter (· ∉ abilities)).eraseDups := by
  induction added generalizing abilities with
  | nil => simp
  | cons ability added ih =>
    rw [List.foldl_cons, ih]
    by_cases h : ability ∈ abilities
    · rw [addTo_of_mem h, List.filter_cons_of_neg (by simpa using h)]
    · -- The new ability is from now on one of those that are there.
      have hfilter : added.filter (· ∉ abilities ++ [ability]) =
          (added.filter (· ∉ abilities)).filter fun other => !other == ability := by
        rw [List.filter_filter]
        refine List.filter_congr fun other _ => ?_
        by_cases hother : other = ability <;> simp [hother]
      rw [addTo_of_not_mem h, List.filter_cons_of_pos (by simpa using h), List.eraseDups_cons,
        hfilter, List.append_assoc, List.singleton_append]

/-- Abilities that are all there are not added again. -/
theorem foldl_addTo_eq_self (h : ∀ ability ∈ added, ability ∈ abilities) :
    added.foldl addTo abilities = abilities := by
  have hfilter : added.filter (· ∉ abilities) = [] := by simpa using h
  rw [foldl_addTo, hfilter, List.eraseDups_nil, List.append_nil]

/-- After abilities are added they are there, and so are those that were. -/
theorem mem_foldl_addTo {ability : Ability} :
    ability ∈ added.foldl addTo abilities ↔ ability ∈ abilities ∨ ability ∈ added := by
  rw [foldl_addTo, List.mem_append, List.mem_eraseDups, List.mem_filter]
  by_cases h : ability ∈ abilities <;> simp [h]

/-- Adding an ability neither makes nor removes a repetition. -/
theorem nodup_addTo_iff {ability : Ability} :
    (addTo abilities ability).Nodup ↔ abilities.Nodup := by
  by_cases h : ability ∈ abilities
  · rw [addTo_of_mem h]
  · rw [addTo_of_not_mem h, List.nodup_append_comm, List.singleton_append, List.nodup_cons]
    exact and_iff_right h

/-- Adding abilities one by one neither makes nor removes a repetition. -/
theorem nodup_foldl_addTo_iff : (added.foldl addTo abilities).Nodup ↔ abilities.Nodup := by
  induction added generalizing abilities with
  | nil => rfl
  | cons ability added ih => rw [List.foldl_cons, ih, nodup_addTo_iff]

end Ability

namespace Instruction

/-- An ability is granted at once by the instructions that have it and wait for no event. -/
theorem standingAbility?_eq_some_iff {instruction : Instruction} {ability : Ability} :
    instruction.standingAbility? = some ability ↔
      instruction.trigger = none ∧ instruction.ability = some ability := by
  rw [standingAbility?, isTriggered]
  cases instruction.trigger <;> simp

/-- A list of instructions grants at once the abilities of those in it that wait for no event. -/
theorem filterMap_standingAbility? (instructions : List Instruction) :
    instructions.filterMap standingAbility? =
      (instructions.filter fun instruction => instruction.trigger = none).filterMap
        (·.ability) := by
  rw [List.filterMap_filter]
  refine List.filterMap_congr fun instruction _ => ?_
  rw [standingAbility?, isTriggered]
  cases instruction.trigger <;> rfl

end Instruction

namespace Card

/-- The abilities of a card after a grant are those it had, and then those of the instructions that
wait for no event, so far as it lacked them, each once and in the order of the instructions. -/
theorem abilities_grant (card : Card) (instructions : List Instruction) :
    (card.grant instructions).abilities = card.abilities ++
      (((instructions.filter fun instruction => instruction.trigger = none).filterMap
        (·.ability)).filter (· ∉ card.abilities)).eraseDups := by
  rw [grant, Ability.foldl_addTo, Instruction.filterMap_standingAbility?]

/-- Instructions that have granted their abilities grant no more. -/
theorem grant_grant (card : Card) (instructions : List Instruction) :
    (card.grant instructions).grant instructions = card.grant instructions := by
  have habilities : (instructions.filterMap Instruction.standingAbility?).foldl Ability.addTo
      (card.grant instructions).abilities = (card.grant instructions).abilities :=
    Ability.foldl_addTo_eq_self fun ability hability =>
      Ability.mem_foldl_addTo.2 (.inr hability)
  rw [grant, habilities]

/-- Instructions grant together what they grant one after the other. -/
theorem grant_append (card : Card) (first second : List Instruction) :
    card.grant (first ++ second) = (card.grant first).grant second := by
  rw [grant, List.filterMap_append, List.foldl_append]
  rfl

/-- After a grant a card has the abilities that it had and those of the instructions that wait for
no event. -/
theorem mem_abilities_grant {card : Card} {instructions : List Instruction} {ability : Ability} :
    ability ∈ (card.grant instructions).abilities ↔ ability ∈ card.abilities ∨
      ∃ instruction ∈ instructions,
        instruction.trigger = none ∧ instruction.ability = some ability := by
  rw [grant, Ability.mem_foldl_addTo, List.mem_filterMap]
  simp only [Instruction.standingAbility?_eq_some_iff]

/-- A grant is a union that keeps order. It changes nothing of a card but the abilities; these are
the ones that the card had, in their places, and then those of the instructions that have one and no
trigger, so far as the card lacked them, each once and where it is first named. So no ability comes
twice that did not before, the card has just those that it had or that some instruction without a
trigger grants, granting the same again changes nothing, and two grants are the grant of both lists
of instructions together. -/
theorem grant_union (card : Card) (first second : List Instruction) :
    card.grant first = { card with abilities := (card.grant first).abilities } ∧
      (card.grant first).abilities = card.abilities ++
        (((first.filter fun instruction => instruction.trigger = none).filterMap (·.ability)).filter
          (· ∉ card.abilities)).eraseDups ∧
      ((card.grant first).abilities.Nodup ↔ card.abilities.Nodup) ∧
      (∀ ability, ability ∈ (card.grant first).abilities ↔ ability ∈ card.abilities ∨
        ∃ instruction ∈ first,
          instruction.trigger = none ∧ instruction.ability = some ability) ∧
      (card.grant first).grant first = card.grant first ∧
      (card.grant first).grant second = card.grant (first ++ second) :=
  ⟨rfl, card.abilities_grant first, Ability.nodup_foldl_addTo_iff,
    fun _ => mem_abilities_grant, card.grant_grant first, (card.grant_append first second).symm⟩

end Card

end CardEffects
