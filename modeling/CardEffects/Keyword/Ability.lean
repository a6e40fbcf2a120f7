import CardEffects.Keyword

/-!
# Standing abilities

The abilities that a card has for as long as it is in play. An effect text grants one by its word
alone, and a card lists the ones it has.
-/

namespace CardEffects

/-- An ability that stands for as long as its card is in play. -/
inductive Ability
  | haste
  | flying
  | reach
  | enterTapped
  | unblockable
  | trample
  | invincible
deriving DecidableEq, Repr

namespace Ability

/-- The word that names an ability in an effect text and in a card record. -/
protected def word : Ability → String
  | haste => "haste"
  | flying => "flying"
  | reach => "reach"
  | enterTapped => "entertap"
  | unblockable => "unblockable"
  | trample => "trample"
  | invincible => "invincible"

instance : Keyword Ability where
  all := [haste, flying, reach, enterTapped, unblockable, trample, invincible]
  word := Ability.word
  mem_all ability := by cases ability <;> decide
  nodup_map_word := by decide

/-- The abilities of a list and one more, which comes last unless the list has it already. -/
def addTo (abilities : List Ability) (ability : Ability) : List Ability :=
  if ability ∈ abilities then abilities else abilities ++ [ability]

/-- An ability that a list has is not added again. -/
theorem addTo_of_mem {abilities : List Ability} {ability : Ability} (h : ability ∈ abilities) :
    addTo abilities ability = abilities :=
  if_pos h

/-- An ability that a list lacks is added at its end. -/
theorem addTo_of_not_mem {abilities : List Ability} {ability : Ability} (h : ability ∉ abilities) :
    addTo abilities ability = abilities ++ [ability] :=
  if_neg h

/-- After one is added, a list has that ability and those it had. -/
@[simp]
theorem mem_addTo {abilities : List Ability} {added ability : Ability} :
    ability ∈ addTo abilities added ↔ ability ∈ abilities ∨ ability = added := by
  by_cases h : added ∈ abilities
  · rw [addTo_of_mem h]
    exact ⟨Or.inl, fun hor => hor.elim id fun heq => heq ▸ h⟩
  · simp [addTo_of_not_mem h]

end Ability

end CardEffects
