import CardEffects.Card
import Std.Data.ExtTreeMap

/-!
# Registries of cards

A registry keeps cards under their identities, each with the instructions that its effect text held
when it was registered. A card whose effect text is no effect is refused, or kept without
instructions, as the registry's policy says.

* `Registry.register`: add a card under its own identity.
* `Registry.registerNext`: add a card under the next identity.
* `Registry.get?`, `Registry.toList`: the entry of an identity, and all entries in order.
-/

namespace CardEffects

/-- What becomes of a card whose effect text is no effect. -/
inductive Registry.Policy
  /-- The card is refused. -/
  | refuse
  /-- The card is kept without instructions. -/
  | tolerate
deriving DecidableEq, Repr, Inhabited

/-- Why a card is not registered. -/
inductive Registry.Refusal
  /-- There is a card under its identity already. -/
  | taken (id : Card.Id)
  /-- Its effect text is no effect. -/
  | effect (id : Card.Id) (source : Effect.Error)
deriving DecidableEq, Repr

/-- The refusal as a sentence. -/
def Registry.Refusal.message : Registry.Refusal → String
  | taken id => "card with id " ++ id.render ++ " already registered"
  | effect id source => "effect of " ++ id.render ++ " failed to parse: " ++ source.message

/-- A registered card and the instructions of its effect. -/
structure Registry.Entry where
  /-- The card, with the abilities that its instructions grant. -/
  card : Card
  /-- The instructions of its effect. -/
  instructions : List Instruction
deriving DecidableEq, Repr

/-- A registry of cards. -/
structure Registry where
  /-- The entry under each identity that is taken. -/
  entries : Std.ExtTreeMap Card.Id Registry.Entry := ∅
  /-- How effect texts are read. -/
  validation : Validation := .advisory
  /-- What becomes of a card whose effect text is no effect. -/
  policy : Registry.Policy := .refuse
  /-- The number of the identity that `Registry.registerNext` gives out. -/
  nextNumber : UInt32 := 0

namespace Registry

/-- The registry without cards. -/
def empty : Registry := {}

/-- The registry with another way to read effect texts. Cards already registered keep their
instructions. -/
def setValidation (registry : Registry) (validation : Validation) : Registry :=
  { registry with validation }

/-- The registry with another policy. -/
def setPolicy (registry : Registry) (policy : Policy) : Registry :=
  { registry with policy }

/-- The entry under an identity. -/
def get? (registry : Registry) (id : Card.Id) : Option Entry :=
  registry.entries[id]?

/-- Whether there is a card under an identity. -/
def contains (registry : Registry) (id : Card.Id) : Bool :=
  (registry.get? id).isSome

/-- The number of cards. -/
def size (registry : Registry) : Nat := registry.entries.size

/-- Whether there is no card. -/
def isEmpty (registry : Registry) : Bool := registry.entries.isEmpty

/-- The entries in the order of their identities. -/
def toList (registry : Registry) : List Entry := registry.entries.values

/-- The entries for which a condition holds, in the order of their identities. -/
def filter (registry : Registry) (condition : Entry → Bool) : List Entry :=
  registry.toList.filter condition

/-- The entries of creatures. -/
def creatures (registry : Registry) : List Entry :=
  registry.filter fun entry => entry.card.kind.isCreature

/-- The entries of cards that are called what cards of the given kind are called. -/
def ofKind (registry : Registry) (kind : Card.Kind) : List Entry :=
  registry.filter fun entry => entry.card.kind.name == kind.name

/-- The instructions with which a card is registered; where broken effect texts are tolerated, such
a text has none. -/
def load (registry : Registry) (card : Card) : Except Effect.Error (List Instruction) :=
  match registry.policy, card.instructions registry.validation with
  | .tolerate, .error _ => .ok []
  | _, result => result

/-- The registry with one more entry. The numbers given out from then on are beyond the new one. -/
def insert (registry : Registry) (card : Card) (instructions : List Instruction) : Registry :=
  { registry with
    entries := registry.entries.insert card.id ⟨card.grant instructions, instructions⟩
    nextNumber := max registry.nextNumber card.id.next }

/-- Register a card under its own identity. The outcome is that identity, or why the card is
refused, in which case the registry stays as it was. -/
def register (registry : Registry) (card : Card) : Except Refusal Card.Id × Registry :=
  if registry.contains card.id then
    (.error (.taken card.id), registry)
  else
    match registry.load card with
    | .ok instructions => (.ok card.id, registry.insert card instructions)
    | .error source => (.error (.effect card.id source), registry)

/-- Register a card under the next identity, whatever its own is. -/
def registerNext (registry : Registry) (card : Card) : Except Refusal Card.Id × Registry :=
  registry.register { card with id := ⟨registry.nextNumber⟩ }

/-! ## Looking up after registering -/

/-- The registry without cards has no entry. -/
@[simp]
theorem get?_empty (id : Card.Id) : empty.get? id = none := by
  simp [empty, get?]

/-- After an entry is added it stands under its card's identity, and the others stand where they
stood. -/
theorem get?_insert (registry : Registry) (card : Card) (instructions : List Instruction)
    (id : Card.Id) :
    (registry.insert card instructions).get? id =
      if card.id = id then some ⟨card.grant instructions, instructions⟩ else registry.get? id := by
  rw [get?, insert, Std.ExtTreeMap.getElem?_insert]
  simp only [Std.LawfulEqCmp.compare_eq_iff_eq, get?]

/-- A card whose identity is taken is refused. -/
theorem register_of_contains {registry : Registry} {card : Card}
    (h : registry.contains card.id = true) :
    registry.register card = (.error (.taken card.id), registry) := by
  simp [register, h]

/-- A card whose identity is free is registered with the instructions that it is loaded with. -/
theorem register_of_load_ok {registry : Registry} {card : Card} {instructions : List Instruction}
    (hfree : registry.contains card.id = false) (hload : registry.load card = .ok instructions) :
    registry.register card = (.ok card.id, registry.insert card instructions) := by
  simp [register, hfree, hload]

/-- A card whose identity is free is refused if it cannot be loaded. -/
theorem register_of_load_error {registry : Registry} {card : Card} {source : Effect.Error}
    (hfree : registry.contains card.id = false) (hload : registry.load card = .error source) :
    registry.register card = (.error (.effect card.id source), registry) := by
  simp [register, hfree, hload]

end Registry

end CardEffects
