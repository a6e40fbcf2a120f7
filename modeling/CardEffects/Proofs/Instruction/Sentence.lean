import CardEffects.Instruction.Parse
import CardEffects.Proofs.Instruction.Alternatives
import CardEffects.Proofs.Token.Rendering

/-!
# Sentences

A sentence is an instruction before it is written: a choice of the slots to fill and of what to fill
them with, in the order of the grammar. It has two readings, neither of which asks the reader of
texts: the tokens by which it is written, and the instruction that it means.

* `Phrase`, `Tail.Written`, `Clause`, `Sentence`: a text, the target slots, all that comes after the
  trigger, and the whole.
* `Sentence.WellFormed`: no slot is filled with something that belongs to a neighbouring slot.
* `Sentence.text`, `Sentence.instruction`: the two readings.
-/

namespace CardEffects

/-! ## Phrases, quantities and lists -/

/-- A text, written as a bare word or as a literal between quotes. -/
inductive Phrase
  | word (word : String)
  | literal (text : String)
deriving DecidableEq, Repr

namespace Phrase

def text : Phrase → String
  | word w => w
  | literal t => t

def token : Phrase → Token
  | word w => .bare w
  | literal t => .quoted t

def WellFormed (phrase : Phrase) : Prop :=
  phrase.token.WellFormed

instance (phrase : Phrase) : Decidable phrase.WellFormed :=
  inferInstanceAs (Decidable phrase.token.WellFormed)

/-- A phrase that is not taken for a target or a scope where a name is looked for: any literal will
do, a word if it is no aim and lists no alternatives. -/
def IsName : Phrase → Prop
  | word w => ¬ Tail.IsAim w ∧ isAlternatives w = false
  | literal _ => True

/-- A phrase that is not taken for anything but a text where a value is looked for. -/
def IsText : Phrase → Prop
  | word w => ¬ Tail.IsAim w ∧ isAlternatives w = false ∧ Numeral.isInteger w = false
  | literal _ => True

instance (phrase : Phrase) : Decidable phrase.IsName :=
  match phrase with
  | word _ => inferInstanceAs (Decidable (_ ∧ _))
  | literal _ => inferInstanceAs (Decidable True)

instance (phrase : Phrase) : Decidable phrase.IsText :=
  match phrase with
  | word _ => inferInstanceAs (Decidable (_ ∧ _))
  | literal _ => inferInstanceAs (Decidable True)

end Phrase

namespace Quantity

/-- A number is written as its decimal numeral. -/
def token : Quantity → Token
  | known value => .bare (toString value)
  | deferred group => .group group

def WellFormed : Quantity → Prop
  | known _ => True
  | deferred group => (Token.group group).WellFormed

instance (quantity : Quantity) : Decidable quantity.WellFormed :=
  match quantity with
  | known _ => inferInstanceAs (Decidable True)
  | deferred group => inferInstanceAs (Decidable (Token.group group).WellFormed)

end Quantity

/-- The parts of a list that can be told apart in the word in which they are joined. -/
def AlternativeParts (parts : List String) : Prop :=
  ∀ part ∈ parts, ∀ c ∈ part.toList, Token.IsWordChar c ∧ c ≠ '/'

instance (parts : List String) : Decidable (AlternativeParts parts) :=
  inferInstanceAs (Decidable (∀ part ∈ parts, _))

/-! ## Target slots -/

namespace Tail

/-- A chosen creature and a single kind are named by a word, several kinds by the list of them. -/
def Aim.word : Aim → String
  | chosenCreature => Lexicon.chosenCreature
  | kind (.one k) => k
  | kind (.anyOf ks) => joinAlternatives ks

/-- The single kind that can be aimed at is a player; otherwise there are two kinds or more. -/
def Aim.WellFormed : Aim → Prop
  | chosenCreature => True
  | kind (.one k) => k = "player"
  | kind (.anyOf ks) => 2 ≤ ks.length ∧ AlternativeParts ks

instance (aim : Aim) : Decidable aim.WellFormed :=
  match aim with
  | .chosenCreature => inferInstanceAs (Decidable True)
  | .kind (.one _) => inferInstanceAs (Decidable (_ = _))
  | .kind (.anyOf _) => inferInstanceAs (Decidable (_ ∧ _))

/-- Whether an aim is written as a list. -/
def Aim.isList : Aim → Bool
  | kind (.anyOf _) => true
  | _ => false

/-- The target slots as they are written. -/
structure Written where
  name : Option Phrase := none
  aim : Option Aim := none
  scope : Option Scope := none
deriving DecidableEq, Repr

namespace Written

structure WellFormed (written : Written) : Prop where
  name : ∀ phrase ∈ written.name, phrase.WellFormed ∧ phrase.IsName
  aim : ∀ aim ∈ written.aim, aim.WellFormed

instance (written : Written) : Decidable written.WellFormed :=
  decidable_of_iff
    ((∀ phrase ∈ written.name, phrase.WellFormed ∧ phrase.IsName) ∧
      ∀ aim ∈ written.aim, aim.WellFormed)
    ⟨fun h => ⟨h.1, h.2⟩, fun h => ⟨h.name, h.aim⟩⟩

def aimTokens (written : Written) : List Token :=
  written.aim.toList.map fun aim => .bare aim.word

def scopeTokens (written : Written) : List Token :=
  written.scope.toList.map fun scope => .bare (Keyword.word scope)

def tokens (written : Written) : List Token :=
  written.name.toList.map Phrase.token ++ (written.aimTokens ++ written.scopeTokens)

/-- What the target slots mean. -/
def tail (written : Written) : Tail where
  name := written.name.map Phrase.text
  target :=
    match written.aim with
    | some (.kind target) => some target
    | _ => none
  needsCreature :=
    match written.aim with
    | some .chosenCreature => true
    | _ => false
  scope := written.scope

end Written

end Tail

/-! ## Clauses -/

/-- What the value slot of a general action is filled with. -/
inductive Operand
  | quantity (quantity : Quantity)
  | list (items : List String)
  | text (phrase : Phrase)
deriving DecidableEq, Repr

namespace Operand

def WellFormed : Operand → Prop
  | quantity q => q.WellFormed
  | list items => 2 ≤ items.length ∧ AlternativeParts items
  | text phrase => phrase.WellFormed ∧ phrase.IsText

instance (operand : Operand) : Decidable operand.WellFormed :=
  match operand with
  | quantity q => inferInstanceAs (Decidable q.WellFormed)
  | list _ => inferInstanceAs (Decidable (_ ∧ _))
  | text _ => inferInstanceAs (Decidable (_ ∧ _))

def token : Operand → Token
  | quantity q => q.token
  | list items => .bare (joinAlternatives items)
  | text phrase => phrase.token

/-- What the value slot holds then. -/
def value : Operand → Value
  | quantity (.known value) => .int value
  | quantity (.deferred group) => .expr group
  | list items => .list items
  | text phrase => .text phrase.text

end Operand

/-- An action with the slots that it fills, or an ability that is granted, by its word alone or
after `static`. -/
inductive Clause
  | ability (ability : Ability) (spelledOut : Bool)
  | modifier (action : Action) (field : Phrase) (quantity : Quantity) (tail : Tail.Written)
  | generate (amount : Option (Quantity × Option (List String)))
  | resourceCount (action : Action) (amount : Option Quantity) (creature : Bool)
  | generic (action : Action) (operand : Option Operand) (tail : Tail.Written)
deriving DecidableEq, Repr

namespace Clause

/-- The slots are filled with what belongs there. Without a value, a general action has no name, and
no list to aim at: either would be taken for the value. -/
def WellFormed : Clause → Prop
  | ability _ _ => True
  | modifier action field quantity tail =>
    action.family = .modifier ∧ field.WellFormed ∧ quantity.WellFormed ∧ tail.WellFormed
  | generate none => True
  | generate (some (quantity, none)) => quantity.WellFormed
  | generate (some (quantity, some colours)) =>
    quantity.WellFormed ∧ AlternativeParts colours ∧ joinAlternatives colours ≠ ""
  | resourceCount action amount _ =>
    action.family = .resourceCount ∧ ∀ quantity ∈ amount, quantity.WellFormed
  | generic action (some operand) tail =>
    action.family = .generic ∧ operand.WellFormed ∧ tail.WellFormed
  | generic action none tail =>
    action.family = .generic ∧ tail.WellFormed ∧ tail.name = none ∧
      ∀ aim ∈ tail.aim, aim.isList = false

instance (clause : Clause) : Decidable clause.WellFormed :=
  match clause with
  | ability _ _ | generate none => inferInstanceAs (Decidable True)
  | generate (some (quantity, none)) => inferInstanceAs (Decidable quantity.WellFormed)
  | modifier .. | generate (some (_, some _)) | resourceCount .. | generic _ (some _) _
  | generic _ none _ =>
    inferInstanceAs (Decidable (_ ∧ _))

/-- The word that a clause begins with. -/
def keyword : Clause → String
  | ability a false => Keyword.word a
  | ability _ true => Keyword.word Action.static
  | modifier action _ _ _ => Keyword.word action
  | generate _ => Keyword.word Action.generate
  | resourceCount action _ _ => Keyword.word action
  | generic action _ _ => Keyword.word action

/-- The tokens after the first word. -/
def arguments : Clause → List Token
  | ability _ false => []
  | ability a true => [.bare (Keyword.word a)]
  | modifier _ field quantity tail => field.token :: quantity.token :: tail.tokens
  | generate none => []
  | generate (some (quantity, colours)) =>
    quantity.token :: colours.toList.map fun parts => .bare (joinAlternatives parts)
  | resourceCount _ amount creature =>
    amount.toList.map Quantity.token ++
      if creature then [.bare Lexicon.chosenCreature] else []
  | generic _ operand tail => operand.toList.map Operand.token ++ tail.tokens

/-- The action that a clause names. -/
def action : Clause → Action
  | ability _ _ => .static
  | modifier action _ _ _ => action
  | generate _ => .generate
  | resourceCount action _ _ => action
  | generic action _ _ => action

/-- The ability that a clause grants. -/
def granted : Clause → Option Ability
  | ability a _ => some a
  | _ => none

/-- What the slots mean. A quantity that is yet to be evaluated counts as one where an amount is
asked for, and stands in the value slot unless a list of colours does. -/
def slots : Clause → Slots
  | ability _ _ => {}
  | modifier _ field (.known value) tail =>
    { tail.tail with field := some field.text, value := some (.int value) }
  | modifier _ field (.deferred group) tail =>
    { tail.tail with field := some field.text, value := some (.expr group) }
  | generate none => { field := some "mana", amount := some 1 }
  | generate (some (.known amount, colours)) =>
    { field := some "mana", amount := some amount, value := colours.map .list }
  | generate (some (.deferred group, none)) =>
    { field := some "mana", amount := some 1, value := some (.expr group) }
  | generate (some (.deferred group, some colours)) =>
    { field := some "mana", amount := some 1, value := some (.list colours)
      deferredAmount := some group }
  | resourceCount _ none creature => { amount := some 1, needsCreature := creature }
  | resourceCount _ (some (.known amount)) creature =>
    { amount := some amount, needsCreature := creature }
  | resourceCount _ (some (.deferred group)) creature =>
    { amount := some 1, value := some (.expr group), needsCreature := creature }
  | generic _ operand tail => { tail.tail with value := operand.map Operand.value }

/-- The instruction that a clause means where no trigger comes before it. -/
def instruction (clause : Clause) (text : String) : Instruction :=
  { clause.slots with action := clause.action, ability := clause.granted, text }

end Clause

/-! ## Sentences -/

/-- A clause, perhaps after a trigger. -/
structure Sentence where
  trigger : Option Phrase := none
  clause : Clause
deriving DecidableEq, Repr

namespace Sentence

structure WellFormed (sentence : Sentence) : Prop where
  trigger : ∀ phrase ∈ sentence.trigger,
    phrase.WellFormed ∧ Instruction.IsTriggerWord phrase.text
  clause : sentence.clause.WellFormed

instance (sentence : Sentence) : Decidable sentence.WellFormed :=
  decidable_of_iff
    ((∀ phrase ∈ sentence.trigger, phrase.WellFormed ∧ Instruction.IsTriggerWord phrase.text) ∧
      sentence.clause.WellFormed)
    ⟨fun h => ⟨h.1, h.2⟩, fun h => ⟨h.trigger, h.clause⟩⟩

/-- The tokens by which a sentence is written. -/
def tokens (sentence : Sentence) : List Token :=
  sentence.trigger.toList.map Phrase.token ++
    .bare sentence.clause.keyword :: sentence.clause.arguments

/-- A sentence as it is written, its tokens one space apart. -/
def text (sentence : Sentence) : String :=
  Token.renderAll sentence.tokens

/-- The instruction that a sentence means. -/
def instruction (sentence : Sentence) : Instruction :=
  { sentence.clause.instruction sentence.text with
    trigger := sentence.trigger.map Phrase.text }

end Sentence

end CardEffects
