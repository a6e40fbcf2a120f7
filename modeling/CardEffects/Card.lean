import CardEffects.Effect

/-!
# Cards

A card has an identity, printed data, the text of its effect, and the little state that play gives
it: whether it is tapped and which standing abilities it has.

* `Card.instructions`: the instructions of a card's effect text.
* `Card.grant`: the card with the standing abilities that instructions grant.
-/

namespace CardEffects

/-- The identity of a card. -/
structure Card.Id where
  /-- The number that identifies the card. -/
  number : UInt32
deriving DecidableEq, Repr, Inhabited

namespace Card.Id

/-- Identities are ordered by their numbers. -/
instance : Ord Card.Id := ⟨compareOn number⟩

instance : Std.TransOrd Card.Id :=
  inferInstanceAs (Std.TransCmp (compareOn number))

instance : Std.LawfulEqOrd Card.Id where
  compare_self {id} := @Std.ReflCmp.compare_self UInt32 compare _ id.number
  eq_of_compare {a b} h := by
    obtain ⟨a⟩ := a
    obtain ⟨b⟩ := b
    exact congrArg Card.Id.mk (Std.LawfulEqOrd.eq_of_compare h)

/-- The number after that of an identity; the last number is its own successor. -/
def next (id : Card.Id) : UInt32 :=
  if id.number.toNat + 1 < UInt32.size then id.number + 1 else id.number

/-- An identity as it is written in messages. -/
def render (id : Card.Id) : String :=
  "Card(" ++ toString id.number.toNat ++ ")"

end Card.Id

/-- What a card is, with the data that only cards of its kind have. -/
inductive Card.Kind
  | land
  | creature (attack defence : Int64)
  | spell
  | enchant
deriving DecidableEq, Repr

namespace Card.Kind

/-- What cards of a kind are called. -/
def name : Card.Kind → String
  | land => "Land"
  | creature _ _ => "Creature"
  | spell => "Spell"
  | enchant => "Enchant"

/-- The attack and the defence of a kind of card, if it has them. -/
def stats? : Card.Kind → Option (Int64 × Int64)
  | creature attack defence => some (attack, defence)
  | _ => none

/-- Whether cards of a kind are creatures, which are the cards with an attack and a defence. -/
def isCreature (kind : Card.Kind) : Bool :=
  kind.stats?.isSome

end Card.Kind

/-- A card. -/
structure Card where
  /-- The identity of the card. -/
  id : Card.Id
  /-- The name printed on it. -/
  name : String
  /-- How much mana of any colour it costs. -/
  genericMana : UInt32 := 0
  /-- The mana of given colours that it costs. -/
  colouredMana : String := ""
  /-- What the card is. -/
  kind : Card.Kind
  /-- The description printed on it. -/
  description : String := ""
  /-- The text of its effect. -/
  effect : String := ""
  /-- Whether it is tapped. -/
  tapped : Bool := false
  /-- The standing abilities that it has. -/
  abilities : List Ability := []
deriving DecidableEq, Repr

namespace Card

/-- The instructions of a card's effect text. -/
def instructions (card : Card) (validation : Validation) :
    Except Effect.Error (List Instruction) :=
  Effect.parse validation card.effect

/-- The card with the standing abilities that the given instructions grant, each added once behind
the ones it has. An ability that waits for an event is not granted yet. -/
def grant (card : Card) (instructions : List Instruction) : Card :=
  { card with
    abilities :=
      (instructions.filterMap Instruction.standingAbility?).foldl Ability.addTo card.abilities }

end Card

end CardEffects
