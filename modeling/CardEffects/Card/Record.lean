import CardEffects.Card

/-!
# Card records

A card record is a card as it is stored: flat, with its identity written as a numeral, its kind as a
word, and the statistics of a creature as fields of their own. Every card has a record; a record is
one of a card only if its numeral and its word denote something and a creature has its statistics.

* `Card.toRecord`: the record of a card.
* `Card.ofRecord`: the card of a record, or what is wrong with the record.
-/

namespace CardEffects

namespace Card

/-- A card as it is stored. -/
structure Record where
  /-- The number of the card's identity, in decimal. -/
  id : String
  /-- The name of the card. -/
  name : String
  /-- How much mana of any colour the card costs. -/
  genericMana : UInt32
  /-- The mana of given colours that the card costs. -/
  colouredMana : String
  /-- What cards of this kind are called. -/
  kind : String
  /-- The description of the card. -/
  description : String
  /-- Zero for a card that is not tapped. -/
  tapped : UInt8
  /-- The standing abilities that the card has. -/
  abilities : List Ability
  /-- The text of the card's effect. -/
  effect : String
  /-- The attack of a creature. -/
  attack : Option Int64 := none
  /-- The defence of a creature. -/
  defence : Option Int64 := none
deriving DecidableEq, Repr

namespace Record

/-- Why a record is not one of a card. -/
inductive Fault
  /-- The identity is not a numeral, or its number is too large. -/
  | invalidId (id : String)
  /-- No kind of card is called so. -/
  | unknownKind (kind : String)
  /-- A creature without attack or without defence. -/
  | missingStats (name : String)
deriving DecidableEq, Repr

/-- The fault as a sentence. -/
def Fault.message : Fault → String
  | invalidId id => "invalid card id `" ++ id ++ "`"
  | unknownKind kind => "unknown card type `" ++ kind ++ "`"
  | missingStats name => "creature `" ++ name ++ "` is missing attack or defence"

/-- The identity that a record denotes. -/
def cardId (record : Record) : Except Fault Card.Id :=
  match Numeral.uint32? record.id with
  | some number => .ok ⟨number⟩
  | none => .error (.invalidId record.id)

/-- The kind of card that a record denotes. Creatures need an attack and a defence; the other kinds
ignore them. -/
def cardKind (record : Record) : Except Fault Card.Kind :=
  match record.kind with
  | "Land" => .ok .land
  | "Spell" => .ok .spell
  | "Enchant" => .ok .enchant
  | "Creature" =>
    match record.attack, record.defence with
    | some attack, some defence => .ok (.creature attack defence)
    | _, _ => .error (.missingStats record.name)
  | kind => .error (.unknownKind kind)

end Record

/-- The record of a card. -/
def toRecord (card : Card) : Record where
  id := toString card.id.number.toNat
  name := card.name
  genericMana := card.genericMana
  colouredMana := card.colouredMana
  kind := card.kind.name
  description := card.description
  tapped := if card.tapped then 1 else 0
  abilities := card.abilities
  effect := card.effect
  attack := card.kind.stats?.map Prod.fst
  defence := card.kind.stats?.map Prod.snd

/-- The card that a record denotes. A faulty identity is reported before a faulty kind. -/
def ofRecord (record : Record) : Except Record.Fault Card := do
  let id ← record.cardId
  let kind ← record.cardKind
  .ok
    { id
      name := record.name
      genericMana := record.genericMana
      colouredMana := record.colouredMana
      kind
      description := record.description
      effect := record.effect
      tapped := record.tapped != 0
      abilities := record.abilities }

end Card

end CardEffects
