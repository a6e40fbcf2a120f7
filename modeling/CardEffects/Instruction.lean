import CardEffects.Keyword.Ability
import CardEffects.Keyword.Action
import CardEffects.Keyword.Scope
import CardEffects.Text.Segments
import CardEffects.Token

/-!
# Instructions

One instruction of an effect: an action with the slots that its text filled. A slot that the action
does not have, or that the text leaves open, holds nothing; no value of a slot stands for its
absence.

* `Value`, `Target`: what the value and target slots hold.
* `Tail`, `Slots`, `Instruction`: the slots that actions share, all slots of an action, and the
  whole instruction with its trigger, action and text.
-/

namespace CardEffects

/-- What the value slot of an instruction holds. -/
inductive Value
  /-- A number. -/
  | int (value : Int64)
  /-- The words of a list written with slashes. -/
  | list (items : List String)
  /-- A word or a quoted literal. -/
  | text (text : String)
  /-- A group, to be evaluated when the instruction is carried out. -/
  | expr (group : Group)
deriving DecidableEq, Repr

namespace Value

/-- The number of a numeric value. -/
def int? : Value → Option Int64
  | int value => some value
  | _ => none

/-- The words of a list value. -/
def list? : Value → Option (List String)
  | list items => some items
  | _ => none

/-- The text of a textual value. -/
def text? : Value → Option String
  | text t => some t
  | _ => none

/-- The group of a deferred value. -/
def expr? : Value → Option Group
  | expr group => some group
  | _ => none

/-- Whether a value has yet to be evaluated. -/
def isDeferred (value : Value) : Bool :=
  value.expr?.isSome

end Value

/-- Whether a word is a list of alternatives, which it is if it has a slash. -/
def isAlternatives (word : String) : Bool :=
  word.toList.contains '/'

/-- The alternatives of a word: the segments between its slashes. -/
def alternatives (word : String) : List String :=
  Text.segments '/' word

/-- The kind of thing that an instruction is aimed at. -/
inductive Target
  /-- One kind. -/
  | one (kind : String)
  /-- Any of several kinds. -/
  | anyOf (kinds : List String)
deriving DecidableEq, Repr

namespace Target

/-- The target that a word denotes: its alternatives if it has a slash, else the word itself. -/
def ofWord (word : String) : Target :=
  if isAlternatives word then anyOf (alternatives word) else one word

/-- The kinds that a target names. -/
def kinds : Target → List String
  | one kind => [kind]
  | anyOf kinds => kinds

/-- A target admits the kinds that it names, and no other. -/
def Admits (target : Target) (kind : String) : Prop :=
  kind ∈ target.kinds

instance (target : Target) (kind : String) : Decidable (target.Admits kind) :=
  inferInstanceAs (Decidable (_ ∈ _))

end Target

/-- The slots that name what an instruction applies to. -/
structure Tail where
  /-- The name of a card or a player. -/
  name : Option String := none
  /-- The kind of thing aimed at. -/
  target : Option Target := none
  /-- Whether a creature has to be chosen when the instruction is carried out. -/
  needsCreature : Bool := false
  /-- How far over the board the instruction reaches. -/
  scope : Option Scope := none
deriving DecidableEq, Repr

/-- The slots that can follow an action. -/
structure Slots extends Tail where
  /-- The field that is written. -/
  field : Option String := none
  /-- The value that is written or used. -/
  value : Option Value := none
  /-- How many. -/
  amount : Option Int64 := none
  /-- How many, as a group yet to be evaluated, when the value slot holds something else. -/
  deferredAmount : Option Group := none
deriving DecidableEq, Repr

/-- One instruction of an effect. -/
structure Instruction extends Slots where
  /-- The event that the instruction waits for. -/
  trigger : Option String := none
  /-- What is done. -/
  action : Action
  /-- The ability that is granted. -/
  ability : Option Ability := none
  /-- The text of the instruction as it was given. -/
  text : String
deriving DecidableEq, Repr

namespace Instruction

/-- An instruction that grants an ability and does nothing else. -/
def ofAbility (ability : Ability) (text : String) : Instruction :=
  { action := .static, ability := some ability, text }

/-- Whether an instruction applies to every active creature. -/
def reachesAll (instruction : Instruction) : Bool :=
  instruction.scope == some .all

/-- Whether an instruction applies to the acting player's creatures alone. -/
def reachesOwn (instruction : Instruction) : Bool :=
  instruction.scope == some .global

/-- Whether an instruction grants a standing ability. -/
def isStanding (instruction : Instruction) : Bool :=
  instruction.action == .static

/-- Whether an instruction waits for an event. -/
def isTriggered (instruction : Instruction) : Bool :=
  instruction.trigger.isSome

/-- Whether a slot of an instruction has yet to be evaluated. -/
def isDeferred (instruction : Instruction) : Bool :=
  instruction.deferredAmount.isSome || instruction.value.any Value.isDeferred

/-- The ability that an instruction grants as soon as its card is in play, which is one that waits
for no event. -/
def standingAbility? (instruction : Instruction) : Option Ability :=
  if instruction.isTriggered then none else instruction.ability

end Instruction

end CardEffects
