import CardEffects.Json.Instruction
import CardEffects.Json.Card
import CardEffects.Proofs.Json.Codec
import CardEffects.Proofs.Json.Rearrangement

/-!
# The types of this library and JSON

Every value of this library that has a JSON form is read back from it. Instructions and card records
are read back from other objects as well: their members may come in another order and among members
that are not known, and an optional member that is null may be left out.

* `Instruction.ofMembers?_of_rearranges`, `Card.Record.ofMembers?_of_rearranges`: such changes to an
  object do not change what is read from it, be it a value or nothing.
* `ofJson?_undoes_toJson`: the law for every type, and what may be changed in an object.
* `Instruction.map_fst_toMembers`, `Card.Record.map_fst_toMembers`: the keys that are written.
-/

namespace CardEffects

open JsonCodec

/-! ## Types with alternatives -/

-- Each alternative goes by a name of its own, so that what is read is the alternative of that name
-- around what its content is read as.

instance : LawfulJsonCodec Group where
  ofJson?_toJson group := map_ofJson?_toJson group.words Group.mk
  toJson_ne_null group := toJson_ne_null group.words

instance : LawfulJsonCodec Token where
  ofJson?_toJson
    | .bare word => map_ofJson?_toJson word Token.bare
    | .quoted text => map_ofJson?_toJson text Token.quoted
    | .group group => map_ofJson?_toJson group Token.group
  toJson_ne_null token := by cases token <;> nofun

instance : LawfulJsonCodec Value where
  ofJson?_toJson
    | .int value => map_ofJson?_toJson value Value.int
    | .list items => map_ofJson?_toJson items Value.list
    | .text text => map_ofJson?_toJson text Value.text
    | .expr group => map_ofJson?_toJson group Value.expr
  toJson_ne_null value := by cases value <;> nofun

instance : LawfulJsonCodec Target where
  ofJson?_toJson
    | .one kind => map_ofJson?_toJson kind Target.one
    | .anyOf kinds => map_ofJson?_toJson kinds Target.anyOf
  toJson_ne_null target := by cases target <;> nofun

instance : LawfulJsonCodec Card.Id where
  ofJson?_toJson id := map_ofJson?_toJson id.number Card.Id.mk
  toJson_ne_null id := toJson_ne_null id.number

/-- A creature is read back with both of its strengths. -/
theorem Card.Kind.ofJson?_creature (attack defence : Int64) :
    ofJson? (toJson (creature attack defence)) = some (creature attack defence) := by
  let members : JsonMembers := [("attack", toJson attack), ("defence", toJson defence)]
  have hattack : members.required "attack" = some attack := by simp [members]
  have hdefence : members.required "defence" = some defence := by simp [members]
  calc ofJson? (toJson (creature attack defence))
      = (members.required "attack").bind fun attack =>
          (members.required "defence").bind fun defence => some (creature attack defence) := rfl
    _ = some (creature attack defence) := by rw [hattack, hdefence]; rfl

instance : LawfulJsonCodec Card.Kind where
  ofJson?_toJson kind := by
    cases kind with
    | creature attack defence => exact Card.Kind.ofJson?_creature attack defence
    | land | spell | enchant => rfl
  toJson_ne_null kind := by cases kind <;> nofun

/-! ## Structures -/

theorem Validation.ofJson?_toJson (validation : Validation) :
    ofJson? (toJson validation) = some validation := by
  let members : JsonMembers := [("validate_triggers", toJson validation.triggers),
    ("validate_fields", toJson validation.fields)]
  have htriggers : members.required "validate_triggers" = some validation.triggers := by
    simp [members]
  have hfields : members.required "validate_fields" = some validation.fields := by
    simp [members]
  calc ofJson? (toJson validation)
      = (members.required "validate_triggers").bind fun triggers =>
          (members.required "validate_fields").bind fun fields =>
            some (Validation.mk triggers fields) := rfl
    _ = some validation := by rw [htriggers, hfields]; rfl

instance : LawfulJsonCodec Validation where
  ofJson?_toJson := Validation.ofJson?_toJson
  toJson_ne_null _ := nofun

theorem Instruction.ofJson?_obj (members : JsonMembers) :
    (ofJson? (.obj members) : Option Instruction) = ofMembers? members :=
  rfl

/-- An instruction is read back from its members, the absent ones included. -/
theorem Instruction.ofMembers?_toMembers (instruction : Instruction) :
    ofMembers? instruction.toMembers = some instruction := by
  simp [ofMembers?, toMembers]

instance : LawfulJsonCodec Instruction where
  ofJson?_toJson instruction :=
    (Instruction.ofJson?_obj instruction.toMembers).trans instruction.ofMembers?_toMembers
  toJson_ne_null _ := nofun

theorem Card.ofJson?_obj (members : JsonMembers) :
    (ofJson? (.obj members) : Option Card) = ofMembers? members :=
  rfl

theorem Card.ofMembers?_toMembers (card : Card) : ofMembers? card.toMembers = some card := by
  simp [ofMembers?, toMembers]

instance : LawfulJsonCodec Card where
  ofJson?_toJson card := (Card.ofJson?_obj card.toMembers).trans card.ofMembers?_toMembers
  toJson_ne_null _ := nofun

theorem Card.Record.ofJson?_obj (members : JsonMembers) :
    (ofJson? (.obj members) : Option Record) = ofMembers? members :=
  rfl

theorem Card.Record.ofMembers?_toMembers (record : Record) :
    ofMembers? record.toMembers = some record := by
  obtain ⟨_, _, _, _, _, _, _, _, _, attack, defence⟩ := record
  -- A statistic that there is none of has no member, so what is looked up depends on both.
  cases attack <;> cases defence <;> simp [ofMembers?, toMembers, statMember]

instance : LawfulJsonCodec Card.Record where
  ofJson?_toJson record :=
    (Card.Record.ofJson?_obj record.toMembers).trans record.ofMembers?_toMembers
  toJson_ne_null _ := nofun

/-! ## Objects written in another way -/

/-- The keys that an instruction is read from. -/
def Instruction.keys : List String :=
  ["trigger", "action", "status", "field", "value", "amount", "amount_expr", "name", "target_type",
    "creature_id_required", "scope", "raw"]

/-- The keys of the slots that an instruction may leave open. -/
def Instruction.optionalKeys : List String :=
  ["trigger", "status", "field", "value", "amount", "amount_expr", "name", "target_type", "scope"]

/-- The keys that a card record is read from. -/
def Card.Record.keys : List String :=
  ["id", "name", "generic_mana", "sp_mana", "type", "description", "tapped", "status", "effect",
    "attack", "defence"]

/-- The keys of the statistics, which only creatures have. -/
def Card.Record.optionalKeys : List String :=
  ["attack", "defence"]

section Rearrangement

variable {before after : JsonMembers}

-- Both structures look every member up by its key, which is in the list of those that are read, and
-- members that have to be there have keys that are not optional.

/-- An instruction is the same after its members are rearranged. -/
theorem Instruction.ofMembers?_of_rearranges (hdistinct : before.DistinctKeys)
    (h : before.Rearranges keys optionalKeys after) : ofMembers? after = ofMembers? before := by
  simp (disch := first | exact hdistinct | decide) only [ofMembers?, h.required_eq, h.optional_eq]

theorem Card.Record.ofMembers?_of_rearranges (hdistinct : before.DistinctKeys)
    (h : before.Rearranges keys optionalKeys after) : ofMembers? after = ofMembers? before := by
  simp (disch := first | exact hdistinct | decide) only [ofMembers?, h.required_eq, h.optional_eq]

end Rearrangement

/-- An instruction is written with all of its keys. -/
theorem Instruction.map_fst_toMembers (instruction : Instruction) :
    instruction.toMembers.map Prod.fst = keys :=
  rfl

/-- No two members of an instruction have the same key. -/
theorem Instruction.distinctKeys_toMembers (instruction : Instruction) :
    instruction.toMembers.DistinctKeys := by
  rw [JsonMembers.DistinctKeys, map_fst_toMembers]
  decide

/-- A record is written with all of its keys but those of the statistics that there are none of. -/
theorem Card.Record.map_fst_toMembers (record : Record) : record.toMembers.map Prod.fst =
    keys.filter fun key =>
      (key == "attack" → record.attack.isSome) ∧ (key == "defence" → record.defence.isSome) := by
  obtain ⟨_, _, _, _, _, _, _, _, _, attack, defence⟩ := record
  cases attack <;> cases defence <;> rfl

theorem Card.Record.distinctKeys_toMembers (record : Record) : record.toMembers.DistinctKeys := by
  rw [JsonMembers.DistinctKeys, map_fst_toMembers]
  exact List.Nodup.filter _ (by decide)

/-- Reading undoes writing, for every type of this library that has a JSON form. Instructions and
card records are read back from every rearrangement of their object, and a rearrangement of any
object with distinct keys is read as that object is, be it a value or nothing. -/
theorem ofJson?_undoes_toJson :
    (∀ instruction : Instruction, ofJson? (toJson instruction) = some instruction) ∧
    (∀ token : Token, ofJson? (toJson token) = some token) ∧
    (∀ value : Value, ofJson? (toJson value) = some value) ∧
    (∀ target : Target, ofJson? (toJson target) = some target) ∧
    (∀ group : Group, ofJson? (toJson group) = some group) ∧
    (∀ card : Card, ofJson? (toJson card) = some card) ∧
    (∀ kind : Card.Kind, ofJson? (toJson kind) = some kind) ∧
    (∀ record : Card.Record, ofJson? (toJson record) = some record) ∧
    (∀ validation : Validation, ofJson? (toJson validation) = some validation) ∧
    (∀ id : Card.Id, ofJson? (toJson id) = some id) ∧
    (∀ action : Action, ofJson? (toJson action) = some action) ∧
    (∀ family : Action.Family, ofJson? (toJson family) = some family) ∧
    (∀ ability : Ability, ofJson? (toJson ability) = some ability) ∧
    (∀ scope : Scope, ofJson? (toJson scope) = some scope) ∧
    (∀ (instruction : Instruction) (after : JsonMembers),
      instruction.toMembers.Rearranges Instruction.keys Instruction.optionalKeys after →
        ofJson? (.obj after) = some instruction) ∧
    (∀ (record : Card.Record) (after : JsonMembers),
      record.toMembers.Rearranges Card.Record.keys Card.Record.optionalKeys after →
        ofJson? (.obj after) = some record) ∧
    ∀ before after : JsonMembers, before.DistinctKeys →
      (before.Rearranges Instruction.keys Instruction.optionalKeys after →
        (ofJson? (.obj after) : Option Instruction) = ofJson? (.obj before)) ∧
      (before.Rearranges Card.Record.keys Card.Record.optionalKeys after →
        (ofJson? (.obj after) : Option Card.Record) = ofJson? (.obj before)) := by
  refine ⟨ofJson?_toJson, ofJson?_toJson, ofJson?_toJson, ofJson?_toJson, ofJson?_toJson,
    ofJson?_toJson, ofJson?_toJson, ofJson?_toJson, ofJson?_toJson, ofJson?_toJson, ofJson?_toJson,
    ofJson?_toJson, ofJson?_toJson, ofJson?_toJson, ?instruction, ?record, ?any⟩
  case instruction =>
    intro instruction after hrearranges
    rw [Instruction.ofJson?_obj,
      Instruction.ofMembers?_of_rearranges instruction.distinctKeys_toMembers hrearranges,
      Instruction.ofMembers?_toMembers]
  case record =>
    intro record after hrearranges
    rw [Card.Record.ofJson?_obj,
      Card.Record.ofMembers?_of_rearranges record.distinctKeys_toMembers hrearranges,
      Card.Record.ofMembers?_toMembers]
  case any =>
    intro before after hdistinct
    exact ⟨Instruction.ofMembers?_of_rearranges hdistinct,
      Card.Record.ofMembers?_of_rearranges hdistinct⟩

/-- The instruction of `draw 2` is read from an object without its open slots, in another order, and
with a member that is not known. The record of a land is read from an object in which attack and
defence are null. -/
theorem ofJson?_undoes_toJson_rearranged :
    let draw : Instruction := { action := .draw, amount := some 2, text := "draw 2" }
    let after : JsonMembers := [("note", .str "drawn"), ("raw", .str "draw 2"),
      ("creature_id_required", .bool false), ("amount", .int 2), ("action", .str "draw")]
    let land : Card.Record := ⟨"7", "Marsh", 0, "", "Land", "", 1, [.enterTapped], "", none, none⟩
    let before : JsonMembers := land.toMembers ++ [("attack", .null), ("defence", .null)]
    (draw.toMembers.Rearranges Instruction.keys Instruction.optionalKeys after ∧
      ofJson? (.obj after) = some draw) ∧
    before.DistinctKeys ∧
    before.Rearranges Card.Record.keys Card.Record.optionalKeys land.toMembers ∧
      ofJson? (.obj before) = some land := by
  intro draw after land before
  let openKeys := Instruction.optionalKeys.filter (· != "amount")
  let openSlots : JsonMembers := openKeys.map fun key => (key, .null)
  have hdraw : draw.toMembers.Rearranges Instruction.keys Instruction.optionalKeys after := by
    refine ⟨draw.toMembers.filter (!openKeys.contains ·.1), openSlots, [("note", .str "drawn")],
      ?kept, List.reverse_perm after.reverse, ?dropped, by decide⟩
    case kept =>
      -- The members of open slots are null, and the others are kept in their order.
      exact (List.filter_append_perm (openKeys.contains ·.1) draw.toMembers).symm.trans
        List.perm_append_comm
    case dropped =>
      intro member hmember
      obtain ⟨key, hkey, rfl⟩ := List.mem_map.1 hmember
      exact ⟨List.mem_of_mem_filter hkey, rfl⟩
  have hdistinct : before.DistinctKeys := by
    rw [JsonMembers.DistinctKeys]
    decide
  have hland : before.Rearranges Card.Record.keys Card.Record.optionalKeys land.toMembers :=
    ⟨land.toMembers, [("attack", .null), ("defence", .null)], [], .refl _, .of_eq (by simp),
      by simp [Card.Record.optionalKeys], nofun⟩
  obtain ⟨-, -, -, -, -, -, -, hrecord, -, -, -, -, -, -, hinstruction, -, hany⟩ :=
    ofJson?_undoes_toJson
  exact ⟨⟨hdraw, hinstruction draw after hdraw⟩, hdistinct, hland,
    ((hany before land.toMembers hdistinct).2 hland).symm.trans (hrecord land)⟩

end CardEffects
