import CardEffects.Proofs.Instruction.Filling

/-!
# Quoted literals

A quoted literal stands for text. It may name a field or an ability like a word, a value or a name
keeps it as it stands, and it is no target and no scope. The slots for a number, for colours and for
a chosen creature, however, are filled by literals as they are by words.

* `Filling.KeepsQuoted`: every quoted literal is kept as it stands, or names a keyword.
* `Instruction.TakesQuoted`: the exceptions, told from the first tokens after the action.
* `Instruction.keepsQuoted_iff_of_parse`: there are no other exceptions.
-/

namespace CardEffects

/-- Every quoted literal in a slot names a field or an ability, or is the value or the name as it
stands. -/
def Filling.KeepsQuoted (filling : Filling) (slots : Slots) : Prop :=
  ∀ use text, filling use = some (.quoted text) →
    use = .field ∨ use = .ability ∨ use = .value ∧ slots.value = some (.text text) ∨
      use = .name ∧ slots.name = some text

namespace Instruction

/-- A quoted literal is read as a number, as a list of colours or as the wish for a chosen creature.
The tokens are those after the action. -/
def TakesQuoted : Action.Family → List Token → Prop
  | .modifier, _ :: .quoted _ :: _ => True
  | .generate, .quoted _ :: _ => True
  | .generate, _ :: .quoted _ :: _ => True
  | .resourceCount, .quoted text :: _ => Numeral.isInteger text ∨ text = Lexicon.chosenCreature
  | .resourceCount, .group _ :: .quoted text :: _ => text = Lexicon.chosenCreature
  | .resourceCount, .bare word :: .quoted text :: _ =>
    Numeral.isInteger word ∧ text = Lexicon.chosenCreature
  | _, _ => False

/-- The slots that are not meant for text. -/
def structuralUses : List Use := [.number, .amount, .colours, .creature]

theorem fill_number (args : List Token) :
    Slot.fill Action.Family.modifier.rules args .number = args.tail.head? := by
  rcases args with _ | ⟨field, _ | ⟨number, rest⟩⟩ <;> rfl

theorem fill_amount (args : List Token) :
    Slot.fill Action.Family.generate.rules args .amount = args.head? := by
  cases args <;> rfl

/-- The colours of mana are the second token, unless that is a group. -/
theorem fill_colours (args : List Token) :
    Slot.fill Action.Family.generate.rules args .colours =
      args.tail.head?.filter fun token => token.text?.isSome := by
  rcases args with _ | ⟨amount, _ | ⟨colours, rest⟩⟩ <;> rfl

/-- An action to add or take away takes a quoted literal for a number where that is its second
token. -/
theorem takesQuoted_modifier (args : List Token) :
    TakesQuoted .modifier args ↔ ∃ text, args.tail.head? = some (.quoted text) := by
  rcases args with _ | ⟨field, _ | ⟨_ | _ | _, rest⟩⟩ <;> simp [TakesQuoted]

/-- An action to generate mana takes a quoted literal for an amount or for colours where that is its
first or its second token. -/
theorem takesQuoted_generate (args : List Token) :
    TakesQuoted .generate args ↔
      (∃ text, args.head? = some (.quoted text)) ∨
        ∃ text, args.tail.head? = some (.quoted text) := by
  rcases args with _ | ⟨_ | _ | _, _ | ⟨_ | _ | _, rest⟩⟩ <;> simp [TakesQuoted]

/-- An action with a count takes a quoted literal for the count, or for the wish for a chosen
creature, where it fills that slot. -/
theorem takesQuoted_resourceCount (args : List Token) :
    TakesQuoted .resourceCount args ↔
      (∃ text, Slot.filler Slots.countRule args = some (.quoted text)) ∨
        ∃ text, Slot.filler Slots.creatureRule (Slot.remaining Slots.countRule args) =
          some (.quoted text) := by
  have hcreature (tokens : List Token) (text : String) :
      Slot.filler Slots.creatureRule tokens = some (.quoted text) ↔
        tokens.head? = some (.quoted text) ∧ text = Lexicon.chosenCreature := by
    simp [Slot.filler, Slots.creatureRule, Option.filter_eq_some_iff, Token.text?]
  have hcount (tokens : List Token) (text : String) :
      Slot.filler Slots.countRule tokens = some (.quoted text) ↔
        tokens.head? = some (.quoted text) ∧ Numeral.isInteger text = true := by
    simp [Slot.filler, Slots.countRule, Option.filter_eq_some_iff]
  -- A word or a literal is left for the next slot unless it has the shape of a number.
  have hremaining (token : Token) (word : String) (rest : List Token)
      (htoken : token.text? = some word) :
      Slot.remaining Slots.countRule (token :: rest) =
        if Numeral.isInteger word then rest else token :: rest := by
    cases token <;> cases htoken <;> cases hinteger : Numeral.isInteger word <;>
      simp [Slot.remaining, Slot.filler, Slots.countRule, hinteger]
  simp only [hcreature, hcount]
  cases args with
  | nil => simp [TakesQuoted, Slot.remaining]
  | cons first rest =>
    cases first with
    | group group =>
      have hgroup : Slot.remaining Slots.countRule (.group group :: rest) = rest := rfl
      rw [hgroup]
      rcases rest with _ | ⟨_ | _ | _, rest⟩ <;> simp [TakesQuoted]
    | bare word =>
      rw [hremaining _ word rest rfl]
      cases hinteger : Numeral.isInteger word <;>
        rcases rest with _ | ⟨_ | _ | _, rest⟩ <;> simp [TakesQuoted, hinteger]
    | quoted text =>
      rw [hremaining _ text rest rfl]
      cases hinteger : Numeral.isInteger text <;> simp [TakesQuoted, hinteger]

/-- A quoted literal is read as what it is not if it fills a slot that is not meant for text. -/
theorem takesQuoted_iff (family : Action.Family) (args : List Token) :
    TakesQuoted family args ↔
      ∃ use ∈ structuralUses, ∃ text, Slot.fill family.rules args use = some (.quoted text) := by
  have huses (P : Use → Prop) : (∃ use ∈ structuralUses, P use) ↔
      P .number ∨ P .amount ∨ P .colours ∨ P .creature := by
    simp [structuralUses]
  rw [huses]
  -- Each family has some of these slots; the others it does not have are empty.
  cases family with
  | modifier =>
    rw [takesQuoted_modifier, fill_number]
    simp [Slot.fill, Action.Family.rules, Slots.anyRule, Tail.rules, Tail.nameRule, Tail.aimRule,
      Tail.scopeRule]
  | generate =>
    rw [takesQuoted_generate, fill_amount, fill_colours]
    simp [Slot.fill, Action.Family.rules, Slots.anyRule, Slots.coloursRule,
      Option.filter_eq_some_iff, Token.text?]
  | resourceCount =>
    rw [takesQuoted_resourceCount]
    simp [Slot.fill, Action.Family.rules, Slots.countRule, Slots.creatureRule]
  | generic =>
    simp [TakesQuoted, Slot.fill, Action.Family.rules, Slots.valueRule, Tail.rules, Tail.nameRule,
      Tail.aimRule, Tail.scopeRule]
  | static => simp [TakesQuoted, Slot.fill, Action.Family.rules, Slots.anyRule]

/-- No quoted literal is a target or a scope, whatever it says. -/
theorem belongs_quoted_of_aim (family : Action.Family) (text : String) :
    ∀ rule ∈ family.rules, rule.use = .aim ∨ rule.use = .scope →
      rule.belongs (.quoted text) = false := by
  have htail : ∀ rule ∈ Tail.rules, rule.use = .aim ∨ rule.use = .scope →
      rule.belongs (.quoted text) = false := by
    simp [Tail.rules, Tail.nameRule, Tail.aimRule, Tail.scopeRule, Tail.readAim, Tail.readScope,
      Token.bare?]
  -- The slots before the target slots are for something else.
  cases family with
  | modifier => simpa [Action.Family.rules, Slots.anyRule] using htail
  | generic => simpa [Action.Family.rules, Slots.valueRule] using htail
  | generate => simp [Action.Family.rules, Slots.anyRule, Slots.coloursRule]
  | resourceCount => simp [Action.Family.rules, Slots.countRule, Slots.creatureRule]
  | static => simp [Action.Family.rules, Slots.anyRule]

/-- No quoted literal fills the slot of an aim or of a scope. -/
theorem fill_ne_quoted_of_aim {args : List Token} {use : Use} (huse : use = .aim ∨ use = .scope)
    (family : Action.Family) (text : String) :
    Slot.fill family.rules args use ≠ some (.quoted text) := by
  intro h
  obtain ⟨rule, hmem, rfl, hbelongs⟩ := Slot.belongs_of_fill h
  rw [belongs_quoted_of_aim family text rule hmem huse] at hbelongs
  cases hbelongs

/-- Quoted literals are kept exactly if none fills a slot that is not meant for text. -/
theorem keepsQuoted_iff (family : Action.Family) (args : List Token) :
    Filling.KeepsQuoted (Slot.fill family.rules args)
        (Filling.slots (Slot.fill family.rules args) family) ↔
      ∀ use ∈ structuralUses, ∀ text,
        Slot.fill family.rules args use ≠ some (.quoted text) := by
  constructor
  · -- None of these uses is one of the four that `KeepsQuoted` admits.
    intro h use huse text hfill
    rcases h use text hfill with rfl | rfl | ⟨rfl, -⟩ | ⟨rfl, -⟩
    all_goals exact absurd huse (by decide)
  · intro h use text hfill
    cases use with
    | field => exact .inl rfl
    | ability => exact .inr (.inl rfl)
    | number => exact absurd hfill (h .number (by decide) text)
    | amount => exact absurd hfill (h .amount (by decide) text)
    | colours => exact absurd hfill (h .colours (by decide) text)
    | creature => exact absurd hfill (h .creature (by decide) text)
    | value =>
      -- Only the general actions have a slot for a value of any kind.
      refine .inr (.inr (.inl ⟨rfl, ?_⟩))
      cases family with
      | generic =>
        rw [Filling.slots, hfill]
        rfl
      | modifier | generate | resourceCount | static => cases hfill
    | name =>
      refine .inr (.inr (.inr ⟨rfl, ?_⟩))
      cases family with
      | modifier | generic =>
        show Filling.text _ .name = some text
        rw [Filling.text, hfill]
        rfl
      | generate | resourceCount | static => cases hfill
    | aim => exact absurd hfill (fill_ne_quoted_of_aim (.inl rfl) family text)
    | scope => exact absurd hfill (fill_ne_quoted_of_aim (.inr rfl) family text)

/-- What an instruction holds is read from the tokens in its slots. No quoted literal is a target or
a scope, and every one is kept as it stands but for the exceptions that `TakesQuoted` names. -/
theorem keepsQuoted_iff_of_parse {validation : Validation} {text : String}
    {instruction : Instruction} (h : parse validation text = .ok (some instruction)) :
    instruction.toSlots =
        (filling instruction.action.family text).slots instruction.action.family ∧
      (∀ literal, filling instruction.action.family text .aim ≠ some (.quoted literal) ∧
        filling instruction.action.family text .scope ≠ some (.quoted literal)) ∧
      ((filling instruction.action.family text).KeepsQuoted instruction.toSlots ↔
        ¬ TakesQuoted instruction.action.family (arguments text)) := by
  have hslots := slots_eq_of_parse h
  refine ⟨hslots, fun literal => ⟨?_, ?_⟩, ?_⟩
  · exact fill_ne_quoted_of_aim (.inl rfl) _ literal
  · exact fill_ne_quoted_of_aim (.inr rfl) _ literal
  · rw [hslots, filling, keepsQuoted_iff, takesQuoted_iff]
    simp only [not_exists, not_and, ne_eq]

/-- Literals that say what a scope and a list say are a value and a name nevertheless. -/
theorem keepsQuoted_create :
    ∃ instruction,
      parse .strict "create \"all\" \"red/blue\" player" = .ok (some instruction) ∧
        instruction.value = some (.text "all") ∧ instruction.name = some "red/blue" ∧
        (filling .generic "create \"all\" \"red/blue\" player").KeepsQuoted
          instruction.toSlots := by
  have hparse : parse .strict "create \"all\" \"red/blue\" player" = .ok (some
      { action := .create
        value := some (.text "all")
        name := some "red/blue"
        target := some (.one "player")
        text := "create \"all\" \"red/blue\" player" }) := rfl
  have hkeeps := (keepsQuoted_iff_of_parse hparse).2.2
  exact ⟨_, hparse, rfl, rfl, hkeeps.2 id⟩

/-- A literal that says how many cards to draw is one of the exceptions. -/
theorem not_keepsQuoted_draw :
    ∃ instruction, parse .advisory "draw \"2\"" = .ok (some instruction) ∧
      instruction.amount = some 2 ∧
      ¬ (filling instruction.action.family "draw \"2\"").KeepsQuoted instruction.toSlots := by
  refine ⟨{ action := .draw, amount := some 2, text := "draw \"2\"" }, rfl, rfl, fun h => ?_⟩
  have hamount : filling .resourceCount "draw \"2\"" .amount = some (.quoted "2") := rfl
  have hexempt := h .amount "2" hamount
  simp at hexempt

end Instruction

end CardEffects
