import CardEffects.Instruction.Slots

/-!
# Reading one instruction

The text of an instruction is cut into tokens; a trigger may come first, then the action or the
ability that the instruction grants, then the slots of the action.

* `Instruction.tokens`: the tokens of a text, with errors that carry the text.
* `Instruction.ofTokens`: the instruction that a list of tokens denotes.
* `Instruction.parse`: the instruction that a text denotes, if it holds any token at all.
-/

namespace CardEffects

namespace Instruction

/-- Whether a word reads as a trigger, which every word that ends in a question mark does. -/
def IsTriggerWord (word : String) : Prop :=
  word.toList.getLast? = some '?' ∨ word ∈ Lexicon.triggers

instance (word : String) : Decidable (IsTriggerWord word) :=
  inferInstanceAs (Decidable (_ ∨ _))

/-- The trigger slot takes the words and quoted literals that read as a trigger. -/
def readTrigger (token : Token) : Option String :=
  token.text?.filter fun word => IsTriggerWord word

/-- What the token in the place of the action can name. -/
inductive Head
  | action (action : Action)
  | ability (ability : Ability)
deriving DecidableEq, Repr

/-- The action or ability that a token names. -/
def readHead : Token → Except Fault Head
  | .group group => .error (.unknownAction group.render)
  | .bare word | .quoted word =>
    match (Keyword.ofWord? word : Option Ability), (Keyword.ofWord? word : Option Action) with
    | some ability, _ => .ok (.ability ability)
    | none, some action => .ok (.action action)
    | none, none => .error (.unknownAction word)

/-- The ability that the token after `static` names. -/
def readAbility : List Token → Except Fault Ability
  | [] => .error (.missing .ability)
  | .group group :: _ => .error (.unknownAbility group.render)
  | .bare word :: _ | .quoted word :: _ =>
    match Keyword.ofWord? word with
    | some ability => .ok ability
    | none => .error (.unknownAbility word)

/-- The instruction without trigger that begins with the given action or ability; `text` is the text
that the tokens after it were cut from. -/
def ofHead (validation : Validation) (text : String) (tokens : List Token) :
    Head → Except Fault Instruction
  | .ability ability => .ok (ofAbility ability text)
  | .action action =>
    match action.family with
    | .modifier => (Slots.modifier validation tokens).map ({ · with action, text })
    | .generate => (Slots.generate tokens).map ({ · with action, text })
    | .resourceCount => (Slots.resourceCount tokens).map ({ · with action, text })
    | .generic => (Slots.generic tokens).map ({ · with action, text })
    | .static => (readAbility tokens).map (ofAbility · text)

/-- The instruction that a list of tokens denotes; `text` is the text that they were cut from. -/
def ofTokens (validation : Validation) (text : String) (tokens : List Token) :
    Except Fault Instruction :=
  let (trigger, tokens) := Slot.take readTrigger tokens
  match trigger.filter fun word => ¬ validation.AdmitsTrigger word with
  | some word => .error (.unknownTrigger word)
  | none =>
    match tokens with
    | [] => .error (.missing .action)
    | token :: tokens => do
      let head ← readHead token
      let instruction ← ofHead validation text tokens head
      .ok { instruction with trigger }

/-- The tokens of a text. -/
def tokens (text : String) : Except Instruction.Error (List Token) :=
  (Token.scan text.toList).mapError fun error => ⟨text, .unbalanced error⟩

/-- The instruction that a text denotes. A text without tokens denotes none, and one that is an
ability's word with blanks around it grants that ability. The offset of an imbalance counts from the
start of the text, the blanks there included. -/
def parse (validation : Validation) (text : String) :
    Except Instruction.Error (Option Instruction) :=
  let trimmed := Text.trim text.toList
  if trimmed.isEmpty then .ok none
  else
    match (Keyword.ofWord? (String.ofList trimmed) : Option Ability) with
    | some ability => .ok (some (ofAbility ability text))
    | none =>
      match Token.scan trimmed with
      | .error error => .error ⟨text, .unbalanced (error.shift (Text.indent text.toList))⟩
      | .ok [] => .ok none
      | .ok tokens =>
        match ofTokens validation text tokens with
        | .ok instruction => .ok (some instruction)
        | .error fault => .error ⟨text, fault⟩

end Instruction

end CardEffects
