import CardEffects.Instruction
import CardEffects.Json.Integer
import CardEffects.Validation

/-!
# Instructions as JSON

How tokens, instructions and what they are made of are written as JSON. A group is the list of its
words, a type with alternatives is an object whose only key names the alternative, and a structure
is an object in which the slots that are left open are null.
-/

namespace CardEffects

open JsonCodec

instance : JsonCodec Group where
  toJson group := toJson group.words
  ofJson? json := (ofJson? json).map Group.mk

instance : JsonCodec Token where
  toJson
    | .bare word => .variant "Atom" (toJson word)
    | .quoted text => .variant "Quoted" (toJson text)
    | .group group => .variant "Group" (toJson group)
  ofJson?
    | .variant "Atom" content => (ofJson? content).map .bare
    | .variant "Quoted" content => (ofJson? content).map .quoted
    | .variant "Group" content => (ofJson? content).map .group
    | _ => none

instance : JsonCodec Value where
  toJson
    | .int value => .variant "Int" (toJson value)
    | .list items => .variant "List" (toJson items)
    | .text text => .variant "Text" (toJson text)
    | .expr group => .variant "Expr" (toJson group)
  ofJson?
    | .variant "Int" content => (ofJson? content).map .int
    | .variant "List" content => (ofJson? content).map .list
    | .variant "Text" content => (ofJson? content).map .text
    | .variant "Expr" content => (ofJson? content).map .expr
    | _ => none

instance : JsonCodec Target where
  toJson
    | .one kind => .variant "One" (toJson kind)
    | .anyOf kinds => .variant "AnyOf" (toJson kinds)
  ofJson?
    | .variant "One" content => (ofJson? content).map .one
    | .variant "AnyOf" content => (ofJson? content).map .anyOf
    | _ => none

/-- The members of an instruction's object. -/
def Instruction.toMembers (instruction : Instruction) : JsonMembers :=
  [("trigger", toJson instruction.trigger), ("action", toJson instruction.action),
    ("status", toJson instruction.ability), ("field", toJson instruction.field),
    ("value", toJson instruction.value), ("amount", toJson instruction.amount),
    ("amount_expr", toJson instruction.deferredAmount), ("name", toJson instruction.name),
    ("target_type", toJson instruction.target),
    ("creature_id_required", toJson instruction.needsCreature),
    ("scope", toJson instruction.scope), ("raw", toJson instruction.text)]

/-- The instruction whose object has the given members. -/
def Instruction.ofMembers? (members : JsonMembers) : Option Instruction := do
  return {
    trigger := ← members.optional "trigger"
    action := ← members.required "action"
    ability := ← members.optional "status"
    field := ← members.optional "field"
    value := ← members.optional "value"
    amount := ← members.optional "amount"
    deferredAmount := ← members.optional "amount_expr"
    name := ← members.optional "name"
    target := ← members.optional "target_type"
    needsCreature := ← members.required "creature_id_required"
    scope := ← members.optional "scope"
    text := ← members.required "raw" }

instance : JsonCodec Instruction where
  toJson instruction := .obj instruction.toMembers
  ofJson? json := json.members?.bind Instruction.ofMembers?

instance : JsonCodec Validation where
  toJson validation :=
    .obj [("validate_triggers", toJson validation.triggers),
      ("validate_fields", toJson validation.fields)]
  ofJson? json := do
    let members ← json.members?
    return ⟨← members.required "validate_triggers", ← members.required "validate_fields"⟩

end CardEffects
