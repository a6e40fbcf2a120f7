import CardEffects.Keyword

/-!
# Actions

The verbs of the effect language. The family of an action says which slots follow its word in a
text; the action `static` is the one that grants a standing ability instead of doing something.
-/

namespace CardEffects

/-- The verb of an instruction. -/
inductive Action
  | increase
  | decrease
  | generate
  | draw
  | discard
  | heal
  | returnCard
  | count
  | damage
  | destroy
  | apply
  | kill
  | morph
  | revive
  | noManaReset
  | create
  | static
deriving DecidableEq, Repr

/-- The shapes that the slots after an action word can have. -/
inductive Action.Family
  /-- A field, a value and a target. -/
  | modifier
  /-- An amount and a list of colours. -/
  | generate
  /-- An amount and perhaps a chosen creature. -/
  | resourceCount
  /-- A value and a target, both optional. -/
  | generic
  /-- The name of a standing ability. -/
  | static
deriving DecidableEq, Repr

namespace Action

/-- The word that names an action in an effect text. -/
protected def word : Action → String
  | increase => "inc"
  | decrease => "dec"
  | generate => "gen"
  | draw => "draw"
  | discard => "discard"
  | heal => "heal"
  | returnCard => "return"
  | count => "count"
  | damage => "damage"
  | destroy => "destroy"
  | apply => "apply"
  | kill => "kill"
  | morph => "morph"
  | revive => "revive"
  | noManaReset => "nomanareset"
  | create => "create"
  | static => "static"

/-- The actions proper, which are all but the one that grants a standing ability. -/
def verbs : List Action :=
  [increase, decrease, generate, draw, discard, heal, returnCard, count, damage, destroy, apply,
    kill, morph, revive, noManaReset, create]

instance : Keyword Action where
  all := verbs ++ [static]
  word := Action.word
  mem_all keyword := by cases keyword <;> decide
  nodup_map_word := by decide

/-- The shape of the slots that follow an action's word. -/
def family : Action → Family
  | increase | decrease => .modifier
  | generate => .generate
  | draw | discard | heal | damage => .resourceCount
  | static => .static
  | _ => .generic

/-- Whether an action adds to or takes from a field. -/
def isModifier (action : Action) : Bool :=
  action.family == .modifier

instance : Keyword Family where
  all := [.modifier, .generate, .resourceCount, .generic, .static]
  word
    | .modifier => "Modifier"
    | .generate => "Generate"
    | .resourceCount => "ResourceCount"
    | .generic => "Generic"
    | .static => "Static"
  mem_all keyword := by cases keyword <;> decide
  nodup_map_word := by decide

end Action

end CardEffects
