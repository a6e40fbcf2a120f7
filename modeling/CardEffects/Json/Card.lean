import CardEffects.Card.Record
import CardEffects.Json.Integer

/-!
# Cards as JSON

How cards and card records are written as JSON. The record of a card without attack and defence
leaves these two members out.
-/

namespace CardEffects

open JsonCodec

instance : JsonCodec Card.Id where
  toJson id := toJson id.number
  ofJson? json := (ofJson? json).map Card.Id.mk

/-- A creature is an alternative with its statistics as content; the other kinds are words. -/
instance : JsonCodec Card.Kind where
  toJson
    | .creature attack defence =>
      .variant "Creature" (.obj [("attack", toJson attack), ("defence", toJson defence)])
    | kind => .str kind.name
  ofJson?
    | .str "Land" => some .land
    | .str "Spell" => some .spell
    | .str "Enchant" => some .enchant
    | .variant "Creature" (.obj members) => do
      return .creature (← JsonMembers.required members "attack")
        (← JsonMembers.required members "defence")
    | _ => none

/-- The members of a card's object. -/
def Card.toMembers (card : Card) : JsonMembers :=
  [("id", toJson card.id), ("name", toJson card.name), ("generic_mana", toJson card.genericMana),
    ("sp_mana", toJson card.colouredMana), ("kind", toJson card.kind),
    ("description", toJson card.description), ("effect", toJson card.effect),
    ("tapped", toJson card.tapped), ("statuses", toJson card.abilities)]

/-- The card whose object has the given members. -/
def Card.ofMembers? (members : JsonMembers) : Option Card := do
  return {
    id := ← members.required "id"
    name := ← members.required "name"
    genericMana := ← members.required "generic_mana"
    colouredMana := ← members.required "sp_mana"
    kind := ← members.required "kind"
    description := ← members.required "description"
    effect := ← members.required "effect"
    tapped := ← members.required "tapped"
    abilities := ← members.required "statuses" }

instance : JsonCodec Card where
  toJson card := .obj card.toMembers
  ofJson? json := json.members?.bind Card.ofMembers?

/-- The member for a statistic, which is left out if there is none. -/
def Card.Record.statMember (key : String) (stat : Option Int64) : JsonMembers :=
  stat.toList.map fun value => (key, toJson value)

/-- The members of a record's object. -/
def Card.Record.toMembers (record : Card.Record) : JsonMembers :=
  [("id", toJson record.id), ("name", toJson record.name),
    ("generic_mana", toJson record.genericMana), ("sp_mana", toJson record.colouredMana),
    ("type", toJson record.kind), ("description", toJson record.description),
    ("tapped", toJson record.tapped), ("status", toJson record.abilities),
    ("effect", toJson record.effect)] ++
    statMember "attack" record.attack ++ statMember "defence" record.defence

/-- The record whose object has the given members. -/
def Card.Record.ofMembers? (members : JsonMembers) : Option Card.Record := do
  return {
    id := ← members.required "id"
    name := ← members.required "name"
    genericMana := ← members.required "generic_mana"
    colouredMana := ← members.required "sp_mana"
    kind := ← members.required "type"
    description := ← members.required "description"
    tapped := ← members.required "tapped"
    abilities := ← members.required "status"
    effect := ← members.required "effect"
    attack := ← members.optional "attack"
    defence := ← members.optional "defence" }

instance : JsonCodec Card.Record where
  toJson record := .obj record.toMembers
  ofJson? json := json.members?.bind Card.Record.ofMembers?

end CardEffects
