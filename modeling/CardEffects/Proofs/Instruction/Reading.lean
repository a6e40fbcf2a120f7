import CardEffects.Proofs.Token.Acceptance
import CardEffects.Proofs.Token.Composition

/-!
# An instruction is read from its tokens

The text of an instruction matters only for its tokens. That it is trimmed first, and that the word
of an ability is looked up before anything else, makes no difference to what the tokens alone say.

* `Instruction.ofTokens_ability`: the tokens of an ability's word denote what its word denotes.
* `Instruction.parse_eq`: reading a text is reading its tokens.
-/

namespace CardEffects.Instruction

/-- No ability and no action is named by a word that reads as a trigger. -/
theorem not_isTriggerWord_ability (ability : Ability) :
    ¬ IsTriggerWord (Keyword.word ability) := by
  cases ability <;> decide

/-- No action is spelled like a trigger. -/
theorem not_isTriggerWord_action (action : Action) : ¬ IsTriggerWord (Keyword.word action) := by
  cases action <;> decide

/-- The word of an ability is read as that ability. -/
theorem readHead_ability (ability : Ability) :
    readHead (.bare (Keyword.word ability)) = .ok (.ability ability) := by
  simp [readHead]

theorem readHead_action (action : Action) :
    readHead (.bare (Keyword.word action)) = .ok (.action action) := by
  have hability : (Keyword.ofWord? (Keyword.word action) : Option Ability) = none := by
    cases action <;> decide
  simp [readHead, hability]

/-- The word of an ability is a single token. -/
theorem scan_ability (ability : Ability) :
    Token.scan (Keyword.word ability).toList = .ok [.bare (Keyword.word ability)] := by
  cases ability <;> decide

/-- The word of an ability alone denotes the instruction that grants it. -/
theorem ofTokens_ability (validation : Validation) (text : String) (ability : Ability) :
    ofTokens validation text [.bare (Keyword.word ability)] = .ok (ofAbility ability text) := by
  have htrigger : readTrigger (.bare (Keyword.word ability)) = none := by
    simp [readTrigger, Token.text?, Option.filter, not_isTriggerWord_ability]
  rw [ofTokens, Slot.take_cons_of_none htrigger]
  simp only [Option.filter_none, readHead_ability]
  rfl

/-- Reading a text is reading its tokens: no tokens denote no instruction, and what is wrong with
the tokens is reported with the text as it was given. -/
theorem parse_eq (validation : Validation) (text : String) :
    parse validation text = (tokens text).bind fun found =>
      if found = [] then .ok none
      else ((ofTokens validation text found).map some).mapError (⟨text, ·⟩) := by
  rw [parse, tokens, Token.scan_trim text.toList]
  generalize Text.trim text.toList = trimmed
  cases trimmed with
  | nil => rfl
  | cons c rest =>
    simp only [List.isEmpty_cons, Bool.false_eq_true, if_false]
    split
    · next ability hability =>
      -- The shortcut for abilities: the word is also the only token, and denotes the same.
      have hword : c :: rest = (Keyword.word ability).toList := by
        rw [Keyword.ofWord?_eq_some_iff.1 hability, String.toList_ofList]
      rw [hword, scan_ability]
      simp [Except.mapError, Except.bind, Except.map, ofTokens_ability]
    · -- Offsets into the trimmed text are moved back to where they are in the text as given.
      cases Token.scan (c :: rest) with
      | error error => rfl
      | ok found =>
        cases found with
        | nil => rfl
        | cons token found =>
          simp only [Except.mapError, Except.bind, if_neg (List.cons_ne_nil token found)]
          cases ofTokens validation text (token :: found) <;> rfl

end CardEffects.Instruction
