import CardEffects.Proofs.Instruction.Outcome

/-!
# The shape of an instruction

Which slots of an instruction hold something, and what they hold, depends on its action. This module
states the shape that each family of actions gives its slots and shows that every instruction that
is read from a text has it, so that whoever carries instructions out need not look for slots that
are out of place.

* `Slots.FamilyShape`, `Slots.Shaped`: the shape of the slots of each family of actions.
* `Instruction.Shaped`: the shape of a whole instruction, with its trigger, ability and text.
* `Instruction.shaped_of_parse`: every instruction that is read from a text has it.
-/

namespace CardEffects

/-! ## The shapes -/

namespace Slots

/-- An action to add or take away has a field and a quantity, and no amount besides. -/
structure ModifierShape (slots : Slots) : Prop where
  field_isSome : slots.field.isSome
  value_eq : (∃ n, slots.value = some (.int n)) ∨ ∃ group, slots.value = some (.expr group)
  amount_eq : slots.amount = none
  deferredAmount_eq : slots.deferredAmount = none

/-- An action to generate mana has an amount, which is one if there is a group in its place. The
group stands in the value slot, or behind it if the colours are there. -/
structure GenerateShape (slots : Slots) : Prop where
  field_eq : slots.field = some Lexicon.mana
  amount_isSome : slots.amount.isSome
  value_eq : slots.value = none ∨ (∃ colours, slots.value = some (.list colours)) ∨
    ∃ group, slots.value = some (.expr group)
  amount_of_expr : ∀ group, slots.value = some (.expr group) → slots.amount = some 1
  amount_of_deferred : slots.deferredAmount.isSome → slots.amount = some 1
  colours_of_deferred : slots.deferredAmount.isSome → ∃ colours, slots.value = some (.list colours)
  tail_eq : slots.toTail = {}

/-- An action that is done a number of times has an amount, which is one if there is a group in its
place, and of the target slots at most the wish for a chosen creature. -/
structure CountShape (slots : Slots) : Prop where
  amount_isSome : slots.amount.isSome
  value_eq : slots.value = none ∨ ∃ group, slots.value = some (.expr group)
  amount_of_expr : ∀ group, slots.value = some (.expr group) → slots.amount = some 1
  field_eq : slots.field = none
  deferredAmount_eq : slots.deferredAmount = none
  name_eq : slots.name = none
  target_eq : slots.target = none
  scope_eq : slots.scope = none

/-- The other actions have a value and a target. A name or a list of kinds stands there only if
there is a value in front of it. -/
structure GenericShape (slots : Slots) : Prop where
  field_eq : slots.field = none
  amount_eq : slots.amount = none
  deferredAmount_eq : slots.deferredAmount = none
  value_of_name : slots.name.isSome → slots.value.isSome
  value_of_anyOf : ∀ kinds, slots.target = some (.anyOf kinds) → slots.value.isSome

/-- The shape that a family of actions gives its slots. An ability leaves all of them open. -/
def FamilyShape : Action.Family → Slots → Prop
  | .modifier => ModifierShape
  | .generate => GenerateShape
  | .resourceCount => CountShape
  | .generic => GenericShape
  | .static => (· = {})

/-- The slots have the shape that the family of actions gives them, and do not ask for a chosen
creature and for a kind of target at once. -/
structure Shaped (family : Action.Family) (slots : Slots) : Prop where
  familyShape : FamilyShape family slots
  exclusive : ¬ (slots.target.isSome ∧ slots.needsCreature = true)

end Slots

/-- An instruction from the given text has the shape of its action. It is the action `static` that
has an ability, and no other. -/
structure Instruction.Shaped (instruction : Instruction) (text : String) : Prop where
  text_eq : instruction.text = text
  trigger : ∀ word, instruction.trigger = some word → IsTriggerWord word
  static_iff : instruction.action = .static ↔ instruction.ability.isSome
  slots : instruction.toSlots.Shaped instruction.action.family

/-! ## The target slots -/

namespace Tail

/-- One token cannot be the wish for a chosen creature and a kind of target at once. -/
theorem exclusive_ofTokens (tokens : List Token) :
    ¬ ((ofTokens tokens).target.isSome ∧ (ofTokens tokens).needsCreature = true) := by
  simp only [ofTokens]
  rcases (Slot.take readAim (Slot.take readName tokens).2).1 with _ | _ | target
  · simp
  · simp [Aim.target?]
  · simp [Aim.target?]

/-- A word that reads as a target or as a scope is no list of kinds. -/
theorem isAlternatives_of_isAim {word : String} (h : IsAim word) : isAlternatives word = false := by
  have haims : ∀ aim ∈ Lexicon.targets ++ Lexicon.scopes, isAlternatives aim = false := by decide
  exact haims word (List.mem_append.2 h)

/-- A word without a slash is read as one kind, if as a kind at all. -/
theorem readAim_ne_anyOf {word : String} (h : isAlternatives word = false) (kinds : List String) :
    readAim (.bare word) ≠ some (.kind (.anyOf kinds)) := by
  have hone : Target.ofWord word = .one word := by simp [Target.ofWord, h]
  simp only [readAim, Token.bare?, Option.bind_some, hone]
  split
  · simp
  · split <;> simp

/-- An aim that comes first is no name, and no list of kinds either. -/
theorem ofTokens_of_isAim {word : String} (h : IsAim word) (rest : List Token) :
    (ofTokens (.bare word :: rest)).name = none ∧
      ∀ kinds, (ofTokens (.bare word :: rest)).target ≠ some (.anyOf kinds) := by
  have hname : readName (.bare word) = none := if_pos (.inl h)
  simp only [ofTokens, Slot.take_cons_of_none hname]
  refine ⟨trivial, fun kinds => ?_⟩
  cases haim : readAim (.bare word) with
  | none =>
    rw [Slot.take_cons_of_none haim]
    simp
  | some aim =>
    have hne := readAim_ne_anyOf (isAlternatives_of_isAim h) kinds
    rw [Slot.take_cons_of_some haim]
    rcases aim with _ | target
    · simp [Aim.target?]
    · simpa [Aim.target?, haim] using hne

end Tail

/-! ## The families -/

namespace Slots

variable {validation : Validation} {tokens : List Token} {slots : Slots}

/-- An action to add or take away reads slots of its shape. -/
theorem shaped_modifier (h : modifier validation tokens = .ok slots) : slots.Shaped .modifier := by
  obtain ⟨⟨field, rest⟩, -, hrest⟩ := exists_of_bind_eq_ok h
  rcases rest with _ | ⟨token, rest⟩
  · cases hrest
  · obtain ⟨quantity, -, hslots⟩ := exists_of_bind_eq_ok hrest
    cases hslots
    refine ⟨⟨rfl, ?_, rfl, rfl⟩, Tail.exclusive_ofTokens rest⟩
    rcases quantity with n | group
    · exact .inl ⟨n, rfl⟩
    · exact .inr ⟨group, rfl⟩

theorem shaped_generate (h : generate tokens = .ok slots) : slots.Shaped .generate := by
  obtain ⟨⟨quantity, rest⟩, -, hslots⟩ := exists_of_bind_eq_ok h
  rcases hcolours : Slot.take Token.text? rest with ⟨colours, more⟩
  simp only [hcolours] at hslots
  cases hslots
  refine ⟨?_, fun hboth => nomatch hboth.1⟩
  -- By what the amount is and by whether there are colours.
  rcases quantity with _ | n | group <;> rcases colours with _ | word <;>
    constructor <;> simp [Quantity.group?, Quantity.count]

theorem shaped_resourceCount (h : resourceCount tokens = .ok slots) :
    slots.Shaped .resourceCount := by
  obtain ⟨⟨quantity, rest⟩, -, hslots⟩ := exists_of_bind_eq_ok h
  cases hslots
  refine ⟨?_, fun hboth => nomatch hboth.1⟩
  rcases quantity with _ | n | group <;> constructor <;> simp [Quantity.group?, Quantity.count]

/-- If the value slot stays open, there is no token left for it or the next one is an aim. -/
theorem eq_nil_or_isAim_of_takeChecked {rest : List Token}
    (h : Slot.takeChecked readValue tokens = .ok (none, rest)) :
    rest = [] ∨ ∃ word more, Tail.IsAim word ∧ rest = .bare word :: more := by
  rcases tokens with _ | ⟨token, more⟩
  · cases h
    exact .inl rfl
  · rw [Slot.takeChecked] at h
    split at h
    · cases h
    · next hread =>
      cases h
      rcases token with word | text | group
      · refine .inr ⟨word, more, ?_, rfl⟩
        by_contra haim
        -- The value of any other word fills the slot.
        rw [readValue, if_neg haim] at hread
        cases hvalue : literalValue word <;> rw [hvalue] at hread <;> cases hread
      · cases hread
      · cases hread
    · cases h

theorem shaped_generic (h : generic tokens = .ok slots) : slots.Shaped .generic := by
  obtain ⟨⟨value, rest⟩, hvalue, hslots⟩ := exists_of_bind_eq_ok h
  cases hslots
  rcases value with _ | value
  · have htail : (Tail.ofTokens rest).name = none ∧
        ∀ kinds, (Tail.ofTokens rest).target ≠ some (.anyOf kinds) := by
      rcases eq_nil_or_isAim_of_takeChecked hvalue with rfl | ⟨word, more, haim, rfl⟩
      · simp [Tail.ofTokens]
      · exact Tail.ofTokens_of_isAim haim more
    refine ⟨⟨rfl, rfl, rfl, fun hname => ?_, fun kinds hkinds => ?_⟩, Tail.exclusive_ofTokens rest⟩
    · simp [htail.1] at hname
    · exact absurd hkinds (htail.2 kinds)
  · exact ⟨⟨rfl, rfl, rfl, fun _ => rfl, fun _ _ => rfl⟩, Tail.exclusive_ofTokens rest⟩

end Slots

/-! ## Whole instructions -/

namespace Instruction

variable {validation : Validation} {text : String}

/-- An instruction with the slots of another action than `static` has no ability. -/
theorem shaped_of_map {action : Action} {instruction : Instruction} {read : Except Fault Slots}
    (hfamily : action.family ≠ .static)
    (hread : ∀ slots, read = .ok slots → slots.Shaped action.family)
    (h : (read.map ({ · with action, text })) = .ok instruction) :
    (instruction.action = .static ↔ instruction.ability.isSome) ∧
      instruction.toSlots.Shaped instruction.action.family := by
  obtain ⟨slots, hslots, rfl⟩ := exists_of_map_eq_ok h
  refine ⟨iff_of_false ?_ Bool.false_ne_true, hread slots hslots⟩
  rintro rfl
  exact hfamily rfl

/-- An ability leaves all slots open. -/
theorem shaped_ofAbility (ability : Ability) (text : String) :
    ((ofAbility ability text).action = .static ↔ (ofAbility ability text).ability.isSome) ∧
      (ofAbility ability text).toSlots.Shaped (ofAbility ability text).action.family :=
  ⟨iff_of_true rfl rfl, rfl, fun hboth => nomatch hboth.1⟩

/-- Whatever the head of an instruction is, its slots have the shape of its action. -/
theorem shaped_of_ofHead {args : List Token} {head : Head} {instruction : Instruction}
    (h : ofHead validation text args head = .ok instruction) :
    (instruction.action = .static ↔ instruction.ability.isSome) ∧
      instruction.toSlots.Shaped instruction.action.family := by
  rcases head with action | ability
  · rw [ofHead] at h
    split at h
    · next hfamily =>
      exact shaped_of_map (by simp [hfamily]) (hfamily ▸ fun _ => Slots.shaped_modifier) h
    · next hfamily =>
      exact shaped_of_map (by simp [hfamily]) (hfamily ▸ fun _ => Slots.shaped_generate) h
    · next hfamily =>
      exact shaped_of_map (by simp [hfamily]) (hfamily ▸ fun _ => Slots.shaped_resourceCount) h
    · next hfamily =>
      exact shaped_of_map (by simp [hfamily]) (hfamily ▸ fun _ => Slots.shaped_generic) h
    · obtain ⟨ability, -, rfl⟩ := exists_of_map_eq_ok h
      exact shaped_ofAbility ability text
  · cases h
    exact shaped_ofAbility ability text

/-- What fills the trigger slot reads as a trigger. -/
theorem isTriggerWord_of_take {found : List Token} {word : String}
    (h : (Slot.take readTrigger found).1 = some word) : IsTriggerWord word := by
  rcases found with _ | ⟨token, rest⟩
  · cases h
  · cases hread : readTrigger token with
    | none =>
      rw [Slot.take_cons_of_none hread] at h
      cases h
    | some filler =>
      rw [Slot.take_cons_of_some hread] at h
      cases h
      exact of_decide_eq_true (Option.filter_eq_some_iff.1 hread).2

/-- Every instruction that is read from a text has the shape of its action. -/
theorem shaped_of_parse {instruction : Instruction}
    (h : parse validation text = .ok (some instruction)) : instruction.Shaped text := by
  obtain ⟨found, -, hfound⟩ := exists_of_parse h
  obtain ⟨head, untriggered, hhead, hinstruction⟩ := exists_of_ofTokens hfound
  obtain ⟨hstatic, hslots⟩ := shaped_of_ofHead hhead
  constructor
  · exact text_eq_of_parse h
  · intro word hword
    rw [hinstruction] at hword
    exact isTriggerWord_of_take hword
  · rw [hinstruction]
    exact hstatic
  · rw [hinstruction]
    exact hslots

/-- A group in the place of an amount stands behind the colours, and the amount is one. -/
theorem shaped_generate_deferred :
    ∃ instruction, parse .strict "enter? gen (hand size) red/blue" = .ok (some instruction) ∧
      instruction.amount = some 1 ∧ instruction.deferredAmount = some ⟨["hand", "size"]⟩ ∧
      instruction.Shaped "enter? gen (hand size) red/blue" := by
  have hparse : parse .strict "enter? gen (hand size) red/blue" = .ok (some
      { trigger := some "enter?"
        action := .generate
        field := some "mana"
        value := some (.list ["red", "blue"])
        amount := some 1
        deferredAmount := some ⟨["hand", "size"]⟩
        text := "enter? gen (hand size) red/blue" }) := rfl
  exact ⟨_, hparse, rfl, rfl, shaped_of_parse hparse⟩

end Instruction

end CardEffects
