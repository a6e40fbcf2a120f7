import CardEffects.Proofs.Instruction.Reading
import CardEffects.Proofs.Instruction.Sentence
import CardEffects.Proofs.Text.Numeral

/-!
# Sentences are read back

Every well-formed sentence is read back from its text into the slots that were filled. No slot takes
what was written for a neighbour, whichever of the slots are present.

* `Sentence.tokens_text`: the text of a sentence has the tokens of the sentence.
* `Tail.ofTokens_tokens`, `Clause.ofHead_arguments`: each part of a sentence is read back from its
  tokens.
* `Instruction.parse_text`: the whole sentence is read back from its text.
-/

namespace CardEffects

/-! ## Slots that are present or absent -/

namespace Slot

variable {α β : Type} {write : β → Token} {mean : β → α} {slot : Option β} {rest : List Token}

/-- A slot takes what was written for it. If nothing was, it must not take what comes next. -/
theorem take_append {read : Token → Option α}
    (hfill : ∀ filler ∈ slot, read (write filler) = some (mean filler))
    (hskip : slot = none → ∀ token ∈ rest.head?, read token = none) :
    take read (slot.toList.map write ++ rest) = (slot.map mean, rest) := by
  cases slot with
  | some filler => exact take_cons_of_some (hfill filler rfl) rest
  | none =>
    cases rest with
    | nil => rfl
    | cons token rest => exact take_cons_of_none (hskip rfl token rfl) rest

/-- A slot is read back if what fills it is, and if an empty slot leaves the next token alone. -/
theorem takeChecked_append {read : Token → Except Fault (Option α)}
    (hfill : ∀ filler ∈ slot, read (write filler) = .ok (some (mean filler)))
    (hskip : slot = none → ∀ token ∈ rest.head?, read token = .ok none) :
    takeChecked read (slot.toList.map write ++ rest) = .ok (slot.map mean, rest) := by
  cases slot with
  | some filler => exact takeChecked_cons_of_some (hfill filler rfl) rest
  | none =>
    cases rest with
    | nil => rfl
    | cons token rest => exact takeChecked_cons_of_none (hskip rfl token rfl) rest

end Slot

/-! ## Words that cannot be mistaken -/

section Words

variable {word : String} {parts : List String}

/-- A word with a slash is no number. -/
theorem isInteger_of_isAlternatives (h : isAlternatives word = true) :
    Numeral.isInteger word = false := by
  rw [← Bool.not_eq_true]
  intro hinteger
  rw [isAlternatives, List.contains_iff_mem] at h
  -- A slash is neither a digit nor a sign.
  exact absurd (Numeral.digit_or_sign_of_isInteger hinteger '/' h) (by decide)

theorem isAlternatives_of_two_le (h : 2 ≤ parts.length) :
    isAlternatives (joinAlternatives parts) = true := by
  match parts with
  | first :: second :: parts => exact isAlternatives_joinAlternatives

/-- Alternatives are read back from the word that lists them. -/
theorem AlternativeParts.alternatives_eq (h : AlternativeParts parts)
    (hne : joinAlternatives parts ≠ "") : alternatives (joinAlternatives parts) = parts := by
  refine alternatives_joinAlternatives ?_ fun part hpart hslash => ?_
  · rintro rfl
    exact hne rfl
  · exact (h part hpart '/' hslash).2 rfl

/-- A word that lists two alternatives or more is not empty. -/
theorem joinAlternatives_ne_empty (h : 2 ≤ parts.length) : joinAlternatives parts ≠ "" := by
  intro hempty
  have hslash := isAlternatives_of_two_le h
  rw [hempty] at hslash
  cases hslash

end Words

/-! ## The target slots -/

namespace Tail

/-- A phrase that can stand as a name is read back. -/
theorem readName_token {phrase : Phrase} (h : phrase.IsName) :
    readName phrase.token = some phrase.text := by
  cases phrase with
  | word word =>
    have hname : ¬ (IsAim word ∨ isAlternatives word = true) := by simp [h.1, h.2]
    exact if_neg hname
  | literal text => rfl

/-- The word of an aim that is no list of kinds reads as a target. -/
theorem Aim.isAim_word {aim : Aim} (h : aim.WellFormed) (hlist : aim.isList = false) :
    IsAim aim.word := by
  rcases aim with _ | kind | kinds
  · decide
  · have hkind : kind = "player" := h
    rw [hkind]
    decide
  · cases hlist

/-- The word of an aim is no name. -/
theorem readName_aim {aim : Aim} (h : aim.WellFormed) : readName (.bare aim.word) = none := by
  have haim : IsAim aim.word ∨ isAlternatives aim.word = true := by
    rcases aim with _ | kind | kinds
    · exact .inl (Aim.isAim_word h rfl)
    · exact .inl (Aim.isAim_word h rfl)
    · exact .inr (isAlternatives_of_two_le h.1)
  exact if_pos haim

/-- An aim is read back. A list of kinds is taken for one whatever the kinds are. -/
theorem readAim_word {aim : Aim} (h : aim.WellFormed) : readAim (.bare aim.word) = some aim := by
  cases aim with
  | chosenCreature => rfl
  | kind target =>
    cases target with
    | one kind =>
      have hkind : kind = "player" := h
      rw [hkind]
      decide
    | anyOf kinds =>
      have hlist := isAlternatives_of_two_le h.1
      -- The word for a chosen creature is looked for first, but it has no slash.
      have hchosen : joinAlternatives kinds ≠ Lexicon.chosenCreature := by
        intro heq
        rw [heq] at hlist
        exact absurd hlist (by decide)
      have hkinds := AlternativeParts.alternatives_eq h.2 (joinAlternatives_ne_empty h.1)
      simp [readAim, Aim.word, Token.bare?, hchosen, hlist, Target.ofWord, hkinds]

theorem readName_scope (scope : Scope) : readName (.bare (Keyword.word scope)) = none := by
  cases scope <;> decide

theorem readAim_scope (scope : Scope) : readAim (.bare (Keyword.word scope)) = none := by
  cases scope <;> decide

/-- A scope is read back from its word. -/
theorem readScope_word (scope : Scope) :
    readScope (.bare (Keyword.word scope)) = some scope := by
  simp [readScope, Token.bare?]

namespace Written

variable {written : Written}

/-- No aim and no scope is taken for a name. -/
theorem readName_of_mem (h : written.WellFormed) :
    ∀ token ∈ written.aimTokens ++ written.scopeTokens, readName token = none := by
  intro token htoken
  rcases List.mem_append.1 htoken with haim | hscope
  · obtain ⟨aim, hmem, rfl⟩ := List.mem_map.1 haim
    exact readName_aim (h.aim aim (by simpa using hmem))
  · obtain ⟨scope, -, rfl⟩ := List.mem_map.1 hscope
    exact readName_scope scope

theorem readAim_of_mem : ∀ token ∈ written.scopeTokens, readAim token = none := by
  intro token htoken
  obtain ⟨scope, -, rfl⟩ := List.mem_map.1 htoken
  exact readAim_scope scope

end Written

/-- The target slots are read back, whichever of them are present. -/
theorem ofTokens_tokens {written : Written} (h : written.WellFormed) :
    ofTokens written.tokens = written.tail := by
  -- In front of each slot stands its own filler, or else one for a later slot, which it leaves.
  have hname : Slot.take readName written.tokens =
      (written.name.map Phrase.text, written.aimTokens ++ written.scopeTokens) :=
    Slot.take_append (fun phrase hphrase => readName_token (h.name phrase hphrase).2)
      fun _ token htoken => Written.readName_of_mem h token (List.mem_of_mem_head? htoken)
  have haim : Slot.take readAim (written.aimTokens ++ written.scopeTokens) =
      (written.aim.map id, written.scopeTokens) :=
    Slot.take_append (fun aim hmem => readAim_word (h.aim aim hmem))
      fun _ token htoken => Written.readAim_of_mem token (List.mem_of_mem_head? htoken)
  have hscope : Slot.take readScope (written.scopeTokens ++ []) = (written.scope.map id, []) :=
    Slot.take_append (fun scope _ => readScope_word scope) (by simp)
  rw [List.append_nil] at hscope
  simp only [ofTokens, hname, haim, hscope, Option.map_id, id]
  rw [Written.tail]
  rcases written.aim with _ | _ | target <;> rfl

end Tail

/-! ## The value and amount slots -/

namespace Quantity

/-- A number is read back from its numeral. -/
theorem readInteger_toString (value : Int64) : readInteger (toString value) = .ok value := by
  rw [readInteger, Numeral.int64?_toString]

/-- A quantity is read back from its token. -/
theorem ofToken_token (quantity : Quantity) : ofToken quantity.token = .ok quantity := by
  cases quantity with
  | known value => simp [token, ofToken, readInteger_toString, Except.map]
  | deferred group => rfl

theorem ofCountToken_token (quantity : Quantity) :
    ofCountToken quantity.token = .ok (some quantity) := by
  cases quantity with
  | known value =>
    simp [token, ofCountToken, Numeral.isInteger_toString, readInteger_toString, Except.map]
  | deferred group => rfl

/-- The word for a chosen creature is no amount. -/
theorem ofCountToken_chosenCreature :
    ofCountToken (.bare Lexicon.chosenCreature) = .ok none := rfl

end Quantity

namespace Operand

/-- What a value slot is filled with is read back, be it a number, a list, a text or a group. -/
theorem readValue_token {operand : Operand} (h : operand.WellFormed) :
    Slots.readValue operand.token = .ok (some operand.value) := by
  cases operand with
  | quantity quantity =>
    cases quantity with
    | known value =>
      have hinteger := Numeral.isInteger_toString value
      have hvalue : Slots.literalValue (toString value) = .ok (.int value) := by
        rw [Slots.literalValue, if_pos hinteger, Quantity.readInteger_toString]
        rfl
      have haim := Tail.not_isAim_of_test (by decide) hinteger
      simp [token, Quantity.token, Slots.readValue, haim, hvalue, Operand.value]
    | deferred group => rfl
  | list items =>
    have hlist := isAlternatives_of_two_le h.1
    have hitems := AlternativeParts.alternatives_eq h.2 (joinAlternatives_ne_empty h.1)
    have hvalue : Slots.literalValue (joinAlternatives items) = .ok (.list items) := by
      rw [Slots.literalValue, isInteger_of_isAlternatives hlist, if_neg Bool.false_ne_true,
        if_pos hlist, hitems]
    have haim := Tail.not_isAim_of_test (by decide) hlist
    simp [token, Slots.readValue, haim, hvalue, Operand.value]
  | text phrase =>
    cases phrase with
    | word word =>
      obtain ⟨haim, hlist, hinteger⟩ := h.2
      have hvalue : Slots.literalValue word = .ok (.text word) := by
        rw [Slots.literalValue, hinteger, if_neg Bool.false_ne_true, hlist,
          if_neg Bool.false_ne_true]
      simp [token, Phrase.token, Slots.readValue, haim, hvalue, Operand.value, Phrase.text]
    | literal text => rfl

end Operand

/-! ## The slots of a clause -/

namespace Clause

variable {text : String}

/-- The slots of an action to add or take away are read back from its arguments. -/
theorem modifier_arguments {field : Phrase} {quantity : Quantity} {tail : Tail.Written}
    (htail : tail.WellFormed) :
    Slots.modifier .advisory (field.token :: quantity.token :: tail.tokens) =
      .ok { tail.tail with field := some field.text, value := some quantity.toValue } := by
  have hfield : Slots.takeField .advisory (field.token :: quantity.token :: tail.tokens) =
      .ok (field.text, quantity.token :: tail.tokens) := by
    cases field <;> simp [Slots.takeField, Phrase.token, Phrase.text]
  rw [Slots.modifier, hfield]
  simp only [bind, Except.bind, Quantity.ofToken_token, Tail.ofTokens_tokens htail]

theorem generate_arguments {quantity : Quantity} {colours : Option (List String)}
    (h : ∀ parts ∈ colours, AlternativeParts parts ∧ joinAlternatives parts ≠ "") :
    Slots.generate (arguments (.generate (some (quantity, colours)))) =
      .ok (slots (.generate (some (quantity, colours)))) := by
  have hamount : Slot.takeChecked (fun token => some <$> Quantity.ofToken token)
      (arguments (.generate (some (quantity, colours)))) =
        .ok (some quantity, colours.toList.map fun parts => .bare (joinAlternatives parts)) := by
    refine Slot.takeChecked_cons_of_some ?_ _
    rw [Quantity.ofToken_token]
    rfl
  rw [Slots.generate, hamount]
  cases colours with
  | none => cases quantity <;> rfl
  | some parts =>
    -- The word is not empty, so that cutting it at the slashes gives the parts it was joined from.
    have hparts := (h parts rfl).1.alternatives_eq (h parts rfl).2
    have hcolours : Slot.take Token.text? [.bare (joinAlternatives parts)] =
        (some (joinAlternatives parts), []) := rfl
    simp only [bind, Except.bind, Option.toList_some, List.map_cons, List.map_nil, hcolours,
      hparts]
    cases quantity <;> rfl

theorem resourceCount_arguments {action : Action} {amount : Option Quantity} {creature : Bool} :
    Slots.resourceCount (arguments (.resourceCount action amount creature)) =
      .ok (slots (.resourceCount action amount creature)) := by
  have hamount : Slot.takeChecked Quantity.ofCountToken
      (arguments (.resourceCount action amount creature)) =
        .ok (amount.map id, if creature then [.bare Lexicon.chosenCreature] else []) := by
    refine Slot.takeChecked_append (fun quantity _ => Quantity.ofCountToken_token quantity) ?_
    intro _ token htoken
    cases creature with
    | false => cases htoken
    | true =>
      cases htoken
      exact Quantity.ofCountToken_chosenCreature
  rw [Slots.resourceCount, hamount]
  rcases amount with _ | _ | group <;> cases creature <;> rfl

/-- Where no value and no name is written and no list aimed at, nothing is taken for a value. -/
theorem readValue_of_mem {tail : Tail.Written} (htail : tail.WellFormed) (hname : tail.name = none)
    (hlist : ∀ aim ∈ tail.aim, aim.isList = false) :
    ∀ token ∈ tail.tokens, Slots.readValue token = .ok none := by
  intro token htoken
  obtain ⟨word, haim, rfl⟩ : ∃ word, Tail.IsAim word ∧ .bare word = token := by
    simp only [Tail.Written.tokens, hname, Option.toList_none, List.map_nil, List.nil_append,
      List.mem_append] at htoken
    rcases htoken with htoken | htoken
    · obtain ⟨aim, hmem, rfl⟩ := List.mem_map.1 htoken
      rw [Option.mem_toList] at hmem
      exact ⟨aim.word, Tail.Aim.isAim_word (htail.aim aim hmem) (hlist aim hmem), rfl⟩
    · obtain ⟨scope, -, rfl⟩ := List.mem_map.1 htoken
      exact ⟨_, .inr (Lexicon.mem_scopes_iff.2 (by simp)), rfl⟩
  exact if_pos haim

theorem generic_arguments {action : Action} {operand : Option Operand} {tail : Tail.Written}
    (h : WellFormed (.generic action operand tail)) :
    Slots.generic (arguments (.generic action operand tail)) =
      .ok (slots (.generic action operand tail)) := by
  have htail : tail.WellFormed := by
    cases operand with
    | none => exact h.2.1
    | some operand => exact h.2.2
  have hvalue : Slot.takeChecked Slots.readValue (arguments (.generic action operand tail)) =
      .ok (operand.map Operand.value, tail.tokens) := by
    refine Slot.takeChecked_append ?_ ?_
    · rintro operand ⟨⟩
      exact Operand.readValue_token h.2.1
    · rintro rfl token htoken
      exact readValue_of_mem htail h.2.2.1 h.2.2.2 token (List.mem_of_mem_head? htoken)
  rw [Slots.generic, hvalue]
  simp only [bind, Except.bind, Tail.ofTokens_tokens htail]
  rfl

/-- A clause is read back from its first word and the tokens after it. -/
theorem ofHead_arguments {clause : Clause} (h : clause.WellFormed) :
    (Instruction.readHead (.bare clause.keyword)).bind
        (Instruction.ofHead .advisory text clause.arguments) =
      .ok (clause.instruction text) := by
  cases clause with
  | ability ability spelledOut =>
    -- Alone, the word of an ability is the head itself; after `static` it is the only slot.
    cases spelledOut with
    | false =>
      rw [keyword, Instruction.readHead_ability]
      rfl
    | true =>
      have hgranted : Instruction.readAbility [.bare (Keyword.word ability)] = .ok ability := by
        simp [Instruction.readAbility]
      rw [keyword, Instruction.readHead_action, arguments, Except.bind, Instruction.ofHead]
      simp only [Action.family, hgranted]
      rfl
  | modifier action field quantity tail =>
    rw [keyword, Instruction.readHead_action, arguments, Except.bind, Instruction.ofHead]
    simp only [h.1, modifier_arguments h.2.2.2]
    cases quantity <;> rfl
  | generate amount =>
    rw [keyword, Instruction.readHead_action, Except.bind, Instruction.ofHead]
    rcases amount with _ | ⟨quantity, colours⟩
    · rfl
    · have hcolours : ∀ parts ∈ colours, AlternativeParts parts ∧ joinAlternatives parts ≠ "" := by
        rintro parts ⟨⟩
        exact h.2
      simp only [Action.family, generate_arguments hcolours]
      rfl
  | resourceCount action amount creature =>
    rw [keyword, Instruction.readHead_action, Except.bind, Instruction.ofHead]
    simp only [h.1, resourceCount_arguments]
    rfl
  | generic action operand tail =>
    have hfamily : action.family = .generic := by
      cases operand with
      | none => exact h.1
      | some operand => exact h.1
    rw [keyword, Instruction.readHead_action, Except.bind, Instruction.ofHead]
    simp only [hfamily, generic_arguments h]
    rfl

end Clause

/-! ## The tokens of a sentence -/

theorem Token.isWordChar_of_isDigit {c : Char} (h : c.isDigit = true) : Token.IsWordChar c := by
  -- No blank and no delimiter has a code point in the range of the digits.
  have hrange : 48 ≤ c.toNat ∧ c.toNat ≤ 57 := by
    rw [Char.isDigit, Bool.and_eq_true, decide_eq_true_eq, decide_eq_true_eq] at h
    exact ⟨h.1, h.2⟩
  refine ⟨?_, ?_, ?_, ?_⟩
  · simp only [Text.isBlank, Text.blankRanges, List.any_cons, List.any_nil, Bool.or_false,
      Bool.or_eq_false_iff, Bool.and_eq_false_iff, decide_eq_false_iff_not]
    omega
  all_goals
    rintro rfl
    revert hrange
    decide

theorem Quantity.token_wellFormed {quantity : Quantity} (h : quantity.WellFormed) :
    quantity.token.WellFormed := by
  cases quantity with
  | known value =>
    have hinteger := Numeral.isInteger_toString value
    refine ⟨?_, fun c hc => ?_⟩
    · intro hempty
      rw [hempty] at hinteger
      exact absurd hinteger (by decide)
    · rcases Numeral.digit_or_sign_of_isInteger hinteger c hc with hdigit | rfl | rfl
      · exact Token.isWordChar_of_isDigit hdigit
      · decide
      · decide
  | deferred group => exact h

theorem AlternativeParts.wellFormed {parts : List String} (h : AlternativeParts parts)
    (hne : joinAlternatives parts ≠ "") : (Token.bare (joinAlternatives parts)).WellFormed := by
  have hparts : ∀ part ∈ parts.map String.toList, ∀ c ∈ part, Token.IsWordChar c :=
    List.forall_mem_map.2 fun part hpart c hc => (h part hpart c hc).1
  refine ⟨hne, ?_⟩
  rw [joinAlternatives, String.toList_intercalate]
  exact Text.forall_mem_intercalate (by decide) hparts

/-- The word of an action is a well-formed token. -/
theorem Keyword.wellFormed_action (action : Action) :
    (Token.bare (Keyword.word action)).WellFormed := by
  cases action <;> decide

theorem Keyword.wellFormed_ability (ability : Ability) :
    (Token.bare (Keyword.word ability)).WellFormed := by
  cases ability <;> decide

theorem Keyword.wellFormed_scope (scope : Scope) :
    (Token.bare (Keyword.word scope)).WellFormed := by
  cases scope <;> decide

theorem Tail.Aim.word_wellFormed {aim : Aim} (h : aim.WellFormed) :
    (Token.bare aim.word).WellFormed := by
  rcases aim with _ | kind | kinds
  · decide
  · have hkind : kind = "player" := h
    rw [hkind]
    decide
  · exact h.2.wellFormed (joinAlternatives_ne_empty h.1)

/-- A well-formed target is written in well-formed tokens. -/
theorem Tail.Written.tokens_wellFormed {written : Written} (h : written.WellFormed) :
    ∀ token ∈ written.tokens, token.WellFormed := by
  intro token htoken
  simp only [tokens, aimTokens, scopeTokens, List.mem_append, List.mem_map, Option.mem_toList]
    at htoken
  rcases htoken with ⟨phrase, hphrase, rfl⟩ | ⟨aim, haim, rfl⟩ | ⟨scope, -, rfl⟩
  · exact (h.name phrase hphrase).1
  · exact Aim.word_wellFormed (h.aim aim haim)
  · exact Keyword.wellFormed_scope scope

theorem Operand.token_wellFormed {operand : Operand} (h : operand.WellFormed) :
    operand.token.WellFormed := by
  cases operand with
  | quantity quantity => exact Quantity.token_wellFormed h
  | list items => exact h.2.wellFormed (joinAlternatives_ne_empty h.1)
  | text phrase => exact h.1

namespace Clause

theorem keyword_wellFormed (clause : Clause) : (Token.bare clause.keyword).WellFormed := by
  cases clause with
  | ability ability spelledOut =>
    cases spelledOut
    · exact Keyword.wellFormed_ability ability
    · exact Keyword.wellFormed_action .static
  | _ => exact Keyword.wellFormed_action _

/-- The arguments of a well-formed clause are well-formed tokens. -/
theorem arguments_wellFormed {clause : Clause} (h : clause.WellFormed) :
    ∀ token ∈ clause.arguments, token.WellFormed := by
  cases clause with
  | ability ability spelledOut =>
    cases spelledOut
    · simp [arguments]
    · simpa [arguments] using Keyword.wellFormed_ability ability
  | modifier action field quantity tail =>
    obtain ⟨-, hfield, hquantity, htail⟩ := h
    rw [arguments, List.forall_mem_cons, List.forall_mem_cons]
    exact ⟨hfield, Quantity.token_wellFormed hquantity, Tail.Written.tokens_wellFormed htail⟩
  | generate amount =>
    rcases amount with _ | ⟨quantity, _ | parts⟩
    · simp [arguments]
    · simpa [arguments] using Quantity.token_wellFormed h
    · obtain ⟨hquantity, hparts, hne⟩ := h
      simpa [arguments] using ⟨Quantity.token_wellFormed hquantity, hparts.wellFormed hne⟩
  | resourceCount action amount creature =>
    intro token htoken
    rw [arguments, List.mem_append] at htoken
    rcases htoken with htoken | htoken
    · obtain ⟨quantity, hquantity, rfl⟩ := List.mem_map.1 htoken
      exact Quantity.token_wellFormed (h.2 quantity (Option.mem_toList.1 hquantity))
    · cases creature
      · cases htoken
      · rw [List.mem_singleton.1 htoken]
        decide
  | generic action operand tail =>
    intro token htoken
    rw [arguments, List.mem_append] at htoken
    cases operand with
    | none =>
      rcases htoken with htoken | htoken
      · cases htoken
      · exact Tail.Written.tokens_wellFormed h.2.1 token htoken
    | some operand =>
      rcases htoken with htoken | htoken
      · rw [List.mem_singleton.1 htoken]
        exact Operand.token_wellFormed h.2.1
      · exact Tail.Written.tokens_wellFormed h.2.2 token htoken

/-- The first word of a clause is not taken for a trigger. -/
theorem readTrigger_keyword (clause : Clause) :
    Instruction.readTrigger (.bare clause.keyword) = none := by
  have hkeyword : ¬ Instruction.IsTriggerWord clause.keyword := by
    cases clause with
    | ability ability spelledOut =>
      cases spelledOut
      · exact Instruction.not_isTriggerWord_ability ability
      · exact Instruction.not_isTriggerWord_action .static
    | _ => exact Instruction.not_isTriggerWord_action _
  simp [Instruction.readTrigger, Token.text?, Option.filter, hkeyword]

end Clause

/-! ## Whole sentences -/

namespace Sentence

variable {sentence : Sentence}

/-- A well-formed sentence is written in well-formed tokens. -/
theorem tokens_wellFormed (h : sentence.WellFormed) :
    ∀ token ∈ sentence.tokens, token.WellFormed := by
  intro token htoken
  rw [tokens, List.mem_append] at htoken
  rcases htoken with htoken | htoken
  · obtain ⟨phrase, hphrase, rfl⟩ := List.mem_map.1 htoken
    exact (h.trigger phrase (Option.mem_toList.1 hphrase)).1
  · rcases List.mem_cons.1 htoken with rfl | htoken
    · exact sentence.clause.keyword_wellFormed
    · exact Clause.arguments_wellFormed h.clause token htoken

/-- The text of a sentence has the tokens of the sentence. -/
theorem tokens_text (h : sentence.WellFormed) :
    Instruction.tokens sentence.text = .ok sentence.tokens :=
  Instruction.tokens_eq_ok_iff.2 (Token.scan_renderAll (tokens_wellFormed h))

/-- A sentence is read back from its tokens. -/
theorem ofTokens_tokens (h : sentence.WellFormed) :
    Instruction.ofTokens .advisory sentence.text sentence.tokens = .ok sentence.instruction := by
  -- A sentence without a trigger begins with its first word, which is none.
  have htrigger : Slot.take Instruction.readTrigger sentence.tokens =
      (sentence.trigger.map Phrase.text,
        .bare sentence.clause.keyword :: sentence.clause.arguments) := by
    refine Slot.take_append (fun phrase hphrase => ?_) fun _ token htoken => ?_
    · have htext : phrase.token.text? = some phrase.text := by cases phrase <;> rfl
      have hword := (h.trigger phrase hphrase).2
      simp [Instruction.readTrigger, htext, Option.filter, hword]
    · cases htoken
      exact sentence.clause.readTrigger_keyword
  have hadmits : (sentence.trigger.map Phrase.text).filter
      (fun word => ¬ Validation.advisory.AdmitsTrigger word) = none := by
    simp
  -- The parser reads the head, then the slots, and adds the trigger at the end.
  have hclause : (Instruction.readHead (.bare sentence.clause.keyword) >>=
      Instruction.ofHead .advisory sentence.text sentence.clause.arguments) =
        .ok (sentence.clause.instruction sentence.text) :=
    Clause.ofHead_arguments h.clause
  rw [Instruction.ofTokens, htrigger]
  simp only [hadmits]
  rw [← bind_assoc, hclause]
  rfl

end Sentence

namespace Instruction

/-- Every well-formed sentence is read back from its text: the slots that were filled hold what they
were filled with, and the other slots nothing. -/
theorem parse_text (sentence : Sentence) (h : sentence.WellFormed) :
    parse .advisory sentence.text = .ok (some sentence.instruction) := by
  have hne : sentence.tokens ≠ [] := by simp [Sentence.tokens]
  rw [parse_eq, Sentence.tokens_text h, Except.bind, if_neg hne, Sentence.ofTokens_tokens h]
  rfl

/-- A crowded sentence: every slot is filled, the name with the word of a target and the value with
a list like the one that is aimed at. -/
theorem parse_text_crowded :
    parse .advisory "\"all gone?\" destroy red/blue \"player\" creature/player global" =
      .ok (some
        { trigger := some "all gone?"
          action := .destroy
          value := some (.list ["red", "blue"])
          name := some "player"
          target := some (.anyOf ["creature", "player"])
          scope := some .global
          text := "\"all gone?\" destroy red/blue \"player\" creature/player global" }) :=
  parse_text
    { trigger := some (.literal "all gone?")
      clause := .generic .destroy (some (.list ["red", "blue"]))
        { name := some (.literal "player")
          aim := some (.kind (.anyOf ["creature", "player"]))
          scope := some .global } }
    (by decide)

end Instruction

end CardEffects
