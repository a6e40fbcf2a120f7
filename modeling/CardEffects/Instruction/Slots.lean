import CardEffects.Instruction
import CardEffects.Instruction.Fault
import CardEffects.Text.Numeral
import CardEffects.Validation

/-!
# Filling slots from tokens

After its action an instruction is a sequence of slots, most of them optional. A slot is filled by
at most one token, the next one, and whether that token belongs to the slot can be told from the
token alone; a token that does not belong is left for the next slot. So a slot is given by a
function on one token, and `Slot.take` and `Slot.takeChecked` apply it to the tokens that are left.

* `Slots.modifier`, `Slots.generate`, `Slots.resourceCount`, `Slots.generic`: the slots of the
  families of actions.
* `Tail.ofTokens`: the target slots that two of the families share.

Tokens that are left over when all slots are filled or passed are ignored.
-/

namespace CardEffects

namespace Slot

variable {α : Type}

/-- Fill an optional slot from the next token if it belongs there; else leave it in place. -/
def take (read : Token → Option α) : List Token → Option α × List Token
  | [] => (none, [])
  | token :: rest =>
    match read token with
    | some filler => (some filler, rest)
    | none => (none, token :: rest)

/-- Fill an optional slot from the next token, which may belong there and yet be faulty. -/
def takeChecked (read : Token → Except Fault (Option α)) :
    List Token → Except Fault (Option α × List Token)
  | [] => .ok (none, [])
  | token :: rest =>
    match read token with
    | .ok (some filler) => .ok (some filler, rest)
    | .ok none => .ok (none, token :: rest)
    | .error fault => .error fault

/-- No token is left to fill a slot from. -/
@[simp]
theorem take_nil (read : Token → Option α) : take read [] = (none, []) := rfl

/-- A token that belongs in the slot fills it. -/
theorem take_cons_of_some {read : Token → Option α} {token : Token} {filler : α}
    (h : read token = some filler) (rest : List Token) :
    take read (token :: rest) = (some filler, rest) := by
  simp [take, h]

/-- A token that does not belong in the slot stays. -/
theorem take_cons_of_none {read : Token → Option α} {token : Token}
    (h : read token = none) (rest : List Token) :
    take read (token :: rest) = (none, token :: rest) := by
  simp [take, h]

/-- A token that belongs in the slot and is not faulty fills it. -/
theorem takeChecked_cons_of_some {read : Token → Except Fault (Option α)} {token : Token}
    {filler : α} (h : read token = .ok (some filler)) (rest : List Token) :
    takeChecked read (token :: rest) = .ok (some filler, rest) := by
  simp [takeChecked, h]

/-- A token that does not belong in the slot stays, faulty or not. -/
theorem takeChecked_cons_of_none {read : Token → Except Fault (Option α)} {token : Token}
    (h : read token = .ok none) (rest : List Token) :
    takeChecked read (token :: rest) = .ok (none, token :: rest) := by
  simp [takeChecked, h]

/-- A faulty token is reported. -/
theorem takeChecked_cons_of_error {read : Token → Except Fault (Option α)} {token : Token}
    {fault : Fault} (h : read token = .error fault) (rest : List Token) :
    takeChecked read (token :: rest) = .error fault := by
  simp [takeChecked, h]

end Slot

/-- The number that a word stands for where a number is expected. -/
def readInteger (word : String) : Except Fault Int64 :=
  match Numeral.int64? word with
  | some value => .ok value
  | none => .error (.notInteger word)

/-- How much or how many: a number, or a group to be evaluated later. -/
inductive Quantity
  | known (value : Int64)
  | deferred (group : Group)
deriving DecidableEq, Repr

namespace Quantity

/-- The quantity of a token that cannot be anything else. -/
def ofToken : Token → Except Fault Quantity
  | .group group => .ok (.deferred group)
  | .bare word | .quoted word => (readInteger word).map .known

/-- The quantity of a token that is a group or has the shape of a number; any other token does not
belong in the slot. -/
def ofCountToken : Token → Except Fault (Option Quantity)
  | .group group => .ok (some (.deferred group))
  | .bare word | .quoted word =>
    if Numeral.isInteger word then (readInteger word).map fun value => some (.known value)
    else .ok none

/-- The number of a quantity, which counts as one until its group is evaluated. -/
def count : Quantity → Int64
  | known value => value
  | deferred _ => 1

/-- The group of a quantity that has yet to be evaluated. -/
def group? : Quantity → Option Group
  | known _ => none
  | deferred group => some group

/-- A quantity in the value slot. -/
def toValue : Quantity → Value
  | known value => .int value
  | deferred group => .expr group

end Quantity

namespace Tail

/-- Whether a bare word reads as a target or as a scope. -/
def IsAim (word : String) : Prop :=
  word ∈ Lexicon.targets ∨ word ∈ Lexicon.scopes

instance (word : String) : Decidable (IsAim word) :=
  inferInstanceAs (Decidable (_ ∨ _))

/-- A word is no aim if it passes a test that all aims fail. -/
theorem not_isAim_of_test {word : String} {test : String → Bool}
    (haims : ∀ aim ∈ Lexicon.targets ++ Lexicon.scopes, test aim = false)
    (h : test word = true) : ¬ IsAim word := by
  intro haim
  rw [haims word (List.mem_append.2 haim)] at h
  cases h

/-- The name slot takes any quoted literal, and the bare words that are neither an aim nor a list of
alternatives. -/
def readName : Token → Option String
  | .quoted text => some text
  | .bare word => if IsAim word ∨ isAlternatives word then none else some word
  | .group _ => none

/-- What the target slot can hold: the wish for a chosen creature, or a kind of thing. -/
inductive Aim
  | chosenCreature
  | kind (target : Target)
deriving DecidableEq, Repr

/-- The kind of thing that an aim names. -/
def Aim.target? : Aim → Option Target
  | chosenCreature => none
  | kind target => some target

/-- The target slot takes the bare words that name a target or are a list of alternatives. -/
def readAim (token : Token) : Option Aim :=
  token.bare?.bind fun word =>
    if word = Lexicon.chosenCreature then some .chosenCreature
    else if isAlternatives word ∨ word ∈ Lexicon.targets then some (.kind (.ofWord word))
    else none

/-- The scope slot takes the bare words that name a scope. -/
def readScope (token : Token) : Option Scope :=
  token.bare?.bind Keyword.ofWord?

/-- The target slots of an instruction: a name, a target and a scope, each optional. -/
def ofTokens (tokens : List Token) : Tail :=
  let (name, tokens) := Slot.take readName tokens
  let (aim, tokens) := Slot.take readAim tokens
  let (scope, _) := Slot.take readScope tokens
  { name
    target := aim.bind Aim.target?
    needsCreature := aim == some .chosenCreature
    scope }

end Tail

namespace Slots

/-- The field that an action to add or take away is about, and the tokens after it. -/
def takeField (validation : Validation) : List Token → Except Fault (String × List Token)
  | [] | .group _ :: _ => .error (.missing .field)
  | .bare word :: rest | .quoted word :: rest =>
    if validation.AdmitsField word then .ok (word, rest) else .error (.unknownField word)

/-- The slots of an action to add or take away: a field and a quantity, then a target. -/
def modifier (validation : Validation) (tokens : List Token) : Except Fault Slots := do
  let (field, tokens) ← takeField validation tokens
  match tokens with
  | [] => .error (.missing .value)
  | token :: tokens =>
    let quantity ← Quantity.ofToken token
    .ok { Tail.ofTokens tokens with field := some field, value := some quantity.toValue }

/-- The slots of an action to generate mana: an amount, one if it is not given, and a list of
colours. An amount yet to be evaluated stands in the value slot unless the colours do. -/
def generate (tokens : List Token) : Except Fault Slots := do
  let (quantity, tokens) ← Slot.takeChecked (fun token => some <$> Quantity.ofToken token) tokens
  let deferred := quantity.bind Quantity.group?
  let (colours, _) := Slot.take Token.text? tokens
  .ok
    { field := some Lexicon.mana
      amount := some (quantity.elim 1 Quantity.count)
      value :=
        match colours with
        | some word => some (.list (alternatives word))
        | none => deferred.map .expr
      deferredAmount := if colours.isSome then deferred else none }

/-- The slots of an action that is done a number of times, once if no number is given, perhaps to a
creature of the player's choice. -/
def resourceCount (tokens : List Token) : Except Fault Slots := do
  let (quantity, tokens) ← Slot.takeChecked Quantity.ofCountToken tokens
  .ok
    { amount := some (quantity.elim 1 Quantity.count)
      value := (quantity.bind Quantity.group?).map .expr
      needsCreature := tokens.head?.bind Token.text? == some Lexicon.chosenCreature }

/-- The value that a bare word stands for: a number if it has the shape of one, else a list if it
has a slash, else the word itself. -/
def literalValue (word : String) : Except Fault Value :=
  if Numeral.isInteger word then (readInteger word).map .int
  else if isAlternatives word then .ok (.list (alternatives word))
  else .ok (.text word)

/-- The value slot of the other actions takes groups, quoted literals, and the bare words that are
no aim. -/
def readValue : Token → Except Fault (Option Value)
  | .group group => .ok (some (.expr group))
  | .quoted text => .ok (some (.text text))
  | .bare word => if Tail.IsAim word then .ok none else some <$> literalValue word

/-- The slots of the other actions: a value and a target, all optional. -/
def generic (tokens : List Token) : Except Fault Slots := do
  let (value, tokens) ← Slot.takeChecked readValue tokens
  .ok { Tail.ofTokens tokens with value }

end Slots

end CardEffects
