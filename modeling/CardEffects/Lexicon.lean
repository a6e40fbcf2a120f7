import CardEffects.Keyword.Scope

/-!
# Word lists

The closed word lists of the effect language that are not keywords of their own. Membership never
decides how a text is cut into tokens; it decides which slot of an instruction a word falls into,
and, for triggers and fields, whether a strict reader accepts the word.
-/

namespace CardEffects.Lexicon

/-- The words that name an event an instruction can wait for. -/
def triggers : List String :=
  ["tap?", "summon?", "enter?", "attacking?", "blocking?", "discard?", "tapfor"]

/-- The words that name a zone of the table. No slot of an instruction asks for one. -/
def zones : List String :=
  ["graveyard", "deck", "hand"]

/-- The field that an instruction to generate mana writes. -/
def mana : String := "mana"

/-- The words that name a field of a creature or of a player. -/
def fields : List String :=
  ["att", "end", mana]

/-- The word that asks for a creature to be chosen when the instruction is carried out. -/
def chosenCreature : String := "creatureid"

/-- The words that name a kind of target. -/
def targets : List String :=
  [chosenCreature, "player"]

/-- The words that name a scope. -/
def scopes : List String :=
  (Keyword.all : List Scope).map Keyword.word

/-- A word is in the list of scopes exactly when it names one. -/
theorem mem_scopes_iff {word : String} :
    word ∈ scopes ↔ (Keyword.ofWord? word : Option Scope).isSome := by
  rw [scopes, List.mem_map, Option.isSome_iff_exists]
  refine exists_congr fun scope => ?_
  rw [Keyword.ofWord?_eq_some_iff]
  exact ⟨And.right, fun h => ⟨Keyword.mem_all scope, h⟩⟩

end CardEffects.Lexicon
