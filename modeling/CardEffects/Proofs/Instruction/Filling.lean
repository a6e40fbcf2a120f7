import CardEffects.Proofs.Instruction.Outcome

/-!
# Which token fills which slot

The slots of an action come in a fixed order. Each has a rule that says, from a token alone, whether
the token belongs there, and the next token fills the slot if it does. This module reads an
instruction in two stages: first tokens are put into slots by the rules, then each slot is read from
the token in it.

* `Slot.fill`: the first stage, `Filling.slots`: the second.
* `Action.Family.rules`: the rules of the slots of each family of actions.
* `Instruction.slots_eq_of_parse`: an instruction that is read from a text holds what the two stages
  give, so that a token that fills no slot is not read at all.
-/

namespace CardEffects

/-! ## Filling slots by rules -/

/-- What a token after the action can be used for. -/
inductive Use
  | field
  /-- The value of an action to add or take away. -/
  | number
  | amount
  | colours
  | creature
  | ability
  /-- The value of a general action. -/
  | value
  | name
  | aim
  | scope
deriving DecidableEq, Repr

namespace Slot

/-- A slot for the given use, with the tokens that belong there. -/
structure Rule where
  use : Use
  belongs : Token → Bool

/-- The token that fills a slot: the next one, if it belongs there. -/
def filler (rule : Rule) (tokens : List Token) : Option Token :=
  tokens.head?.filter rule.belongs

/-- The tokens that are left for the slots after it. -/
def remaining (rule : Rule) (tokens : List Token) : List Token :=
  if (filler rule tokens).isSome then tokens.tail else tokens

/-- The token that fills the slot for a use, if there is such a slot and such a token. -/
def fill : List Rule → List Token → Use → Option Token
  | [], _, _ => none
  | rule :: rules, tokens, use =>
    if use = rule.use then filler rule tokens else fill rules (remaining rule tokens) use

variable {α : Type} (rule : Rule) {tokens : List Token}

/-- A token in a slot belongs there. -/
theorem belongs_of_filler {rule : Rule} {token : Token} (h : filler rule tokens = some token) :
    rule.belongs token = true :=
  (Option.filter_eq_some_iff.1 h).2

/-- The token that fills a slot belongs there by the rule of the slot. -/
theorem belongs_of_fill {rules : List Rule} {use : Use} {token : Token}
    (h : fill rules tokens use = some token) :
    ∃ rule ∈ rules, rule.use = use ∧ rule.belongs token = true := by
  -- On the slots: a token that is not in the first of them is in a later one.
  induction rules generalizing tokens with
  | nil => cases h
  | cons rule rules ih =>
    rw [fill] at h
    split at h
    · next huse => exact ⟨rule, List.mem_cons_self, huse.symm, belongs_of_filler h⟩
    · obtain ⟨found, hmem, hfound⟩ := ih h
      exact ⟨found, List.mem_cons_of_mem rule hmem, hfound⟩

/-- A slot is read from the token that fills it, if the rule agrees with the reader. -/
theorem take_eq {read : Token → Option α}
    (hrule : ∀ token, rule.belongs token = (read token).isSome) (tokens : List Token) :
    take read tokens = ((filler rule tokens).bind read, remaining rule tokens) := by
  cases tokens with
  | nil => rfl
  | cons token rest =>
    cases hread : read token with
    | none =>
      have hfiller : filler rule (token :: rest) = none := by
        simp [filler, Option.filter, hrule, hread]
      rw [take_cons_of_none hread, remaining, hfiller]
      rfl
    | some found =>
      have hfiller : filler rule (token :: rest) = some token := by
        simp [filler, Option.filter, hrule, hread]
      rw [take_cons_of_some hread, remaining, hfiller]
      simp [hread]

/-- The same where a token that belongs in the slot can still be faulty. -/
theorem takeChecked_eq {read : Token → Except Fault (Option α)} {value : Token → Except Fault α}
    (hread : ∀ token, read token = if rule.belongs token then some <$> value token else .ok none)
    {found : Option α × List Token} (h : takeChecked read tokens = .ok found) :
    found = ((filler rule tokens).bind fun token => (value token).toOption,
      remaining rule tokens) := by
  cases tokens with
  | nil =>
    cases h
    rfl
  | cons token rest =>
    have hread := hread token
    cases hbelongs : rule.belongs token with
    | false =>
      -- The token stays for the slots to come.
      have hfiller : filler rule (token :: rest) = none := by simp [filler, hbelongs]
      rw [hbelongs, if_neg Bool.false_ne_true] at hread
      rw [takeChecked_cons_of_none hread] at h
      cases h
      rw [remaining, hfiller]
      rfl
    | true =>
      have hfiller : filler rule (token :: rest) = some token := by simp [filler, hbelongs]
      rw [hbelongs, if_pos rfl] at hread
      -- That there was no fault is what `h` says.
      cases hvalue : value token with
      | error fault =>
        rw [hvalue] at hread
        rw [takeChecked_cons_of_error hread] at h
        cases h
      | ok filled =>
        rw [hvalue] at hread
        rw [takeChecked_cons_of_some hread] at h
        cases h
        rw [remaining, hfiller, Option.bind_some, hvalue]
        rfl

end Slot

/-! ## The slots of each family -/

namespace Tail

def nameRule : Slot.Rule := ⟨.name, fun token => (readName token).isSome⟩

def aimRule : Slot.Rule := ⟨.aim, fun token => (readAim token).isSome⟩

def scopeRule : Slot.Rule := ⟨.scope, fun token => (readScope token).isSome⟩

/-- The target slots. -/
def rules : List Slot.Rule := [nameRule, aimRule, scopeRule]

end Tail

namespace Slots

/-- A slot that takes any token. If the token is not what is asked for, the instruction is at
fault. -/
def anyRule (use : Use) : Slot.Rule := ⟨use, fun _ => true⟩

def coloursRule : Slot.Rule := ⟨.colours, fun token => token.text?.isSome⟩

/-- A group, or a text in the shape of a number. -/
def countRule : Slot.Rule where
  use := .amount
  belongs
    | .group _ => true
    | .bare word | .quoted word => Numeral.isInteger word

def creatureRule : Slot.Rule := ⟨.creature, fun token => token.text? == some Lexicon.chosenCreature⟩

/-- A group, a quoted literal, or a bare word that is no aim. -/
def valueRule : Slot.Rule where
  use := .value
  belongs
    | .group _ | .quoted _ => true
    | .bare word => ¬ Tail.IsAim word

/-- The value of a token that cannot be anything else. -/
def ofValueToken : Token → Except Fault Value
  | .group group => .ok (.expr group)
  | .quoted text => .ok (.text text)
  | .bare word => literalValue word

end Slots

/-- The slots of a family of actions. -/
def Action.Family.rules : Action.Family → List Slot.Rule
  | .modifier => Slots.anyRule .field :: Slots.anyRule .number :: Tail.rules
  | .generate => [Slots.anyRule .amount, Slots.coloursRule]
  | .resourceCount => [Slots.countRule, Slots.creatureRule]
  | .generic => Slots.valueRule :: Tail.rules
  | .static => [Slots.anyRule .ability]

/-! ## Reading the slots -/

/-- The tokens that fill the slots of an action. -/
abbrev Filling := Use → Option Token

namespace Filling

variable (filling : Filling)

/-- The text in a slot, word or quoted literal, as it stands. -/
def text (use : Use) : Option String :=
  (filling use).bind Token.text?

/-- The target slots, each read from its own token. -/
def tail : Tail where
  name := filling.text .name
  target := (filling .aim).bind fun token => (Tail.readAim token).bind Tail.Aim.target?
  needsCreature := (filling .aim).bind Tail.readAim == some .chosenCreature
  scope := (filling .scope).bind Tail.readScope

/-- The quantity in a slot that asks for one. -/
def quantity (use : Use) : Option Quantity :=
  (filling use).bind fun token => (Quantity.ofToken token).toOption

/-- All slots of an action, each read from the tokens that fill it. -/
def slots : Action.Family → Slots
  | .modifier =>
    { filling.tail with
      field := filling.text .field
      value := (filling.quantity .number).map Quantity.toValue }
  | .generate =>
    { field := some Lexicon.mana
      amount := some ((filling.quantity .amount).elim 1 Quantity.count)
      value :=
        match filling.text .colours with
        | some word => some (.list (alternatives word))
        | none => ((filling.quantity .amount).bind Quantity.group?).map .expr
      deferredAmount :=
        if (filling.text .colours).isSome then (filling.quantity .amount).bind Quantity.group?
        else none }
  | .resourceCount =>
    { amount := some ((filling.quantity .amount).elim 1 Quantity.count)
      value := ((filling.quantity .amount).bind Quantity.group?).map .expr
      needsCreature := (filling .creature).isSome }
  | .generic =>
    { filling.tail with
      value := (filling .value).bind fun token => (Slots.ofValueToken token).toOption }
  | .static => {}

end Filling

/-! ## The two stages read what the parser reads -/

namespace Tail

/-- A name is the text of its token, as it stands. -/
theorem filler_bind_readName (tokens : List Token) :
    (Slot.filler nameRule tokens).bind readName =
      (Slot.filler nameRule tokens).bind Token.text? := by
  cases hfiller : Slot.filler nameRule tokens with
  | none => rfl
  | some token =>
    -- A bare word in the slot is no aim and no list, since neither belongs there.
    have hname : (readName token).isSome = true := Slot.belongs_of_filler hfiller
    cases token with
    | bare word =>
      simp only [readName] at hname
      split at hname
      · cases hname
      · next hword => exact if_neg hword
    | quoted text => rfl
    | group group => cases hname

/-- The target slots are read from the tokens that fill them. -/
theorem ofTokens_eq (tokens : List Token) :
    ofTokens tokens = Filling.tail (Slot.fill rules tokens) := by
  simp only [ofTokens, Slot.take_eq nameRule (fun _ => rfl), Slot.take_eq aimRule (fun _ => rfl),
    Slot.take_eq scopeRule (fun _ => rfl), filler_bind_readName, Option.bind_assoc]
  rfl

end Tail

/-- The target slots do not depend on the slots before them. -/
theorem Filling.tail_cons {rule : Slot.Rule} (h : rule.use ∉ [.name, .aim, .scope])
    (rules : List Slot.Rule) (tokens : List Token) :
    Filling.tail (Slot.fill (rule :: rules) tokens) =
      Filling.tail (Slot.fill rules (Slot.remaining rule tokens)) := by
  simp only [List.mem_cons, List.not_mem_nil, or_false, not_or] at h
  obtain ⟨hname, haim, hscope⟩ := h
  simp only [tail, text, Slot.fill, Ne.symm hname, Ne.symm haim, Ne.symm hscope, if_false]

/-! ## The families -/

namespace Slots

variable {validation : Validation} {tokens : List Token} {slots : Slots}

theorem takeField_eq_ok {found : String × List Token}
    (h : takeField validation tokens = .ok found) :
    ∃ token rest, tokens = token :: rest ∧ token.text? = some found.1 ∧ found.2 = rest := by
  cases tokens with
  | nil => cases h
  | cons token rest =>
    cases token with
    | group group => cases h
    | bare word | quoted word =>
      rw [takeField] at h
      split at h
      · cases h
        exact ⟨_, rest, rfl, rfl, rfl⟩
      · cases h

/-- The slots of an action to add or take away are read from the tokens that fill them. -/
theorem modifier_eq (h : modifier validation tokens = .ok slots) :
    slots = Filling.slots (Slot.fill Action.Family.modifier.rules tokens) .modifier := by
  -- The field and the number cannot be missing, or there would have been a fault.
  obtain ⟨⟨field, rest⟩, hfield, hrest⟩ := exists_of_bind_eq_ok h
  obtain ⟨token, rest, rfl, htext, rfl⟩ := takeField_eq_ok hfield
  cases rest with
  | nil => cases hrest
  | cons number rest =>
    obtain ⟨quantity, hquantity, hslots⟩ := exists_of_bind_eq_ok hrest
    have htail : Filling.tail (Slot.fill Action.Family.modifier.rules (token :: number :: rest)) =
        Tail.ofTokens rest := by
      rw [Action.Family.rules, Filling.tail_cons (by decide), Filling.tail_cons (by decide),
        Tail.ofTokens_eq]
      rfl
    have hnumber : Filling.quantity
        (Slot.fill Action.Family.modifier.rules (token :: number :: rest)) .number =
          some quantity := by
      show (Quantity.ofToken number).toOption = some quantity
      rw [hquantity]
      rfl
    have hfilled : Filling.text
        (Slot.fill Action.Family.modifier.rules (token :: number :: rest)) .field = some field :=
      htext
    cases hslots
    rw [Filling.slots, htail, hnumber, hfilled]
    rfl

theorem generate_eq (h : generate tokens = .ok slots) :
    slots = Filling.slots (Slot.fill Action.Family.generate.rules tokens) .generate := by
  obtain ⟨found, hquantity, hslots⟩ := exists_of_bind_eq_ok h
  -- Any token is taken for the amount, and the next text for the colours.
  have hamount := Slot.takeChecked_eq (anyRule .amount) (fun _ => rfl) hquantity
  simp only [hamount, Slot.take_eq coloursRule (fun _ => rfl)] at hslots
  cases hslots
  rfl

/-- An amount is read as any other quantity is, if it can be an amount. -/
theorem ofCountToken_eq (token : Token) :
    Quantity.ofCountToken token =
      if countRule.belongs token then some <$> Quantity.ofToken token else .ok none := by
  have hword (word : String) :
      (readInteger word).map (fun value => some (Quantity.known value)) =
        some <$> (readInteger word).map Quantity.known := by
    cases readInteger word <;> rfl
  cases token with
  | group group => rfl
  | bare word | quoted word =>
    rw [Quantity.ofCountToken, hword]
    rfl

theorem resourceCount_eq (h : resourceCount tokens = .ok slots) :
    slots = Filling.slots (Slot.fill Action.Family.resourceCount.rules tokens) .resourceCount := by
  obtain ⟨found, hquantity, hslots⟩ := exists_of_bind_eq_ok h
  have hamount := Slot.takeChecked_eq countRule ofCountToken_eq hquantity
  -- The parser looks at the next text, whether or not it is the word for a chosen creature.
  have hcreature : ((Slot.remaining countRule tokens).head?.bind Token.text? ==
      some Lexicon.chosenCreature) =
        (Slot.filler creatureRule (Slot.remaining countRule tokens)).isSome := by
    rw [Slot.filler]
    cases (Slot.remaining countRule tokens).head? with
    | none => rfl
    | some token =>
      by_cases htext : token.text? = some Lexicon.chosenCreature <;>
        simp [Option.filter, creatureRule, htext]
  simp only [hamount, hcreature] at hslots
  cases hslots
  rfl

/-- A token is read as a value if it can be nothing else, and left for the target otherwise. -/
theorem readValue_eq (token : Token) :
    readValue token =
      if valueRule.belongs token then some <$> ofValueToken token else .ok none := by
  cases token with
  | group group => rfl
  | quoted text => rfl
  | bare word => by_cases haim : Tail.IsAim word <;> simp [readValue, valueRule, haim, ofValueToken]

theorem generic_eq (h : generic tokens = .ok slots) :
    slots = Filling.slots (Slot.fill Action.Family.generic.rules tokens) .generic := by
  obtain ⟨found, hvalue, hslots⟩ := exists_of_bind_eq_ok h
  rw [Slot.takeChecked_eq valueRule readValue_eq hvalue] at hslots
  cases hslots
  rw [Filling.slots, Action.Family.rules, Filling.tail_cons (by decide), ← Tail.ofTokens_eq]
  rfl

end Slots

/-! ## Whole instructions -/

namespace Instruction

variable {validation : Validation} {text : String}

/-- The tokens after the action, or after the ability that stands in its place. -/
def arguments (text : String) : List Token :=
  (Slot.take readTrigger ((tokens text).toOption.getD [])).2.tail

/-- The tokens of a text that fill the slots of an action of the given family. -/
def filling (family : Action.Family) (text : String) : Filling :=
  Slot.fill family.rules (arguments text)

theorem slots_eq_of_map {args : List Token} {action : Action} {instruction : Instruction}
    {read : Except Fault Slots}
    (hread : ∀ slots, read = .ok slots →
      slots = Filling.slots (Slot.fill action.family.rules args) action.family)
    (h : (read.map ({ · with action, text })) = .ok instruction) :
    instruction.toSlots = Filling.slots (Slot.fill instruction.action.family.rules args)
      instruction.action.family := by
  obtain ⟨slots, hslots, rfl⟩ := exists_of_map_eq_ok h
  exact hread slots hslots

/-- The slots of an instruction are read from the tokens after its head. -/
theorem slots_eq_of_ofHead {args : List Token} {head : Head} {instruction : Instruction}
    (h : ofHead validation text args head = .ok instruction) :
    instruction.toSlots = Filling.slots (Slot.fill instruction.action.family.rules args)
      instruction.action.family := by
  cases head with
  | ability ability =>
    cases h
    rfl
  | action action =>
    rw [ofHead] at h
    split at h
    · next hfamily => exact slots_eq_of_map (hfamily ▸ fun _ => Slots.modifier_eq) h
    · next hfamily => exact slots_eq_of_map (hfamily ▸ fun _ => Slots.generate_eq) h
    · next hfamily => exact slots_eq_of_map (hfamily ▸ fun _ => Slots.resourceCount_eq) h
    · next hfamily => exact slots_eq_of_map (hfamily ▸ fun _ => Slots.generic_eq) h
    · obtain ⟨ability, -, rfl⟩ := exists_of_map_eq_ok h
      rfl

/-- An instruction that is read from a text holds what is read from the tokens that fill the slots
of its action, each slot from its own token. -/
theorem slots_eq_of_parse {instruction : Instruction}
    (h : parse validation text = .ok (some instruction)) :
    instruction.toSlots =
      (filling instruction.action.family text).slots instruction.action.family := by
  obtain ⟨found, htokens, hfound⟩ := exists_of_parse h
  obtain ⟨head, untriggered, hhead, hinstruction⟩ := exists_of_ofTokens hfound
  have hslots := slots_eq_of_ofHead hhead
  rw [hinstruction, filling, arguments, htokens]
  exact hslots

end Instruction

end CardEffects
