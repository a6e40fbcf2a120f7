import CardEffects.Proofs.Instruction.Reading

/-!
# What comes of a text

Reading a text as an instruction comes out in one of four ways: its delimiters do not match, it has
no tokens, its tokens denote an instruction, or they are at fault. Delimiters are the business of
the scanner alone. Once there are tokens no fault is about delimiters any more, so that the error
tells which of the four ways it was.

* `Instruction.warranted_ofTokens`: the faults that tokens can have, none of which is about
  delimiters.
* `Instruction.exists_of_ofTokens`: the head of an instruction and what is read after it.
* `Instruction.Outcome`, `Instruction.outcome_parse`: the ways in which reading a text comes out.
* `Instruction.text_eq_of_parse`, `Instruction.text_eq_of_parse_error`: instructions and errors hold
  the text that they are from.
* `Instruction.blames_of_parse_error`: an error that is about delimiters names the one to blame.
* `Instruction.tokens_eq_error_of_parse`: such an error is that of the tokens of the whole text, the
  blanks around it included.
-/

namespace CardEffects

/-! ## Results that may be faults -/

section

variable {α β : Type}

/-- A computation that succeeds has succeeded in its first part. -/
theorem exists_of_bind_eq_ok {first : Except Fault α} {next : α → Except Fault β} {result : β}
    (h : first >>= next = .ok result) :
    ∃ found, first = .ok found ∧ next found = .ok result := by
  cases first with
  | error fault => cases h
  | ok found => exact ⟨found, rfl, h⟩

theorem exists_of_map_eq_ok {first : Except Fault α} {f : α → β} {result : β}
    (h : first.map f = .ok result) : ∃ found, first = .ok found ∧ f found = result := by
  cases first with
  | error fault => cases h
  | ok found => exact ⟨found, rfl, Except.ok.inj h⟩

/-- The fault is one that tokens can have. None of those is about delimiters, and a word is outside
a list only if the list is enforced and does not have it. -/
def Fault.Warranted (validation : Validation) : Fault → Prop
  | .unbalanced _ => False
  | .unknownTrigger word => ¬ validation.AdmitsTrigger word
  | .unknownField word => ¬ validation.AdmitsField word
  | .unknownAction _ | .unknownAbility _ | .notInteger _ | .missing _ => True

/-- If the result is a fault, it is one that tokens can have. -/
def Warranted (validation : Validation) (result : Except Fault α) : Prop :=
  ∀ fault, result = .error fault → fault.Warranted validation

namespace Warranted

variable {validation : Validation}

theorem ok (a : α) : Warranted validation (.ok a : Except Fault α) := by
  intro fault h
  cases h

theorem error {fault : Fault} (h : fault.Warranted validation) :
    Warranted validation (.error fault : Except Fault α) := by
  intro found hfound
  cases hfound
  exact h

theorem map {result : Except Fault α} (h : Warranted validation result) (f : α → β) :
    Warranted validation (result.map f) := by
  cases result with
  | ok a => exact ok (f a)
  | error fault => exact error (h fault rfl)

/-- Two readings in a row are at fault only as one of them is. -/
theorem bind {first : Except Fault α} {next : α → Except Fault β}
    (hfirst : Warranted validation first) (hnext : ∀ a, Warranted validation (next a)) :
    Warranted validation (first >>= next) := by
  cases first with
  | ok a => exact hnext a
  | error fault => exact error (hfirst fault rfl)

/-- A slot is at fault only if the token in it is. -/
theorem takeChecked {read : Token → Except Fault (Option α)}
    (hread : ∀ token, Warranted validation (read token)) (tokens : List Token) :
    Warranted validation (Slot.takeChecked read tokens) := by
  cases tokens with
  | nil => exact ok _
  | cons token rest =>
    rw [Slot.takeChecked]
    split
    · exact ok _
    · exact ok _
    · next fault hfault => exact error (hread token fault hfault)

end Warranted

end

/-! ## Faults of tokens

Faults begin where a token is read, and slots, families and whole instructions only hand them on. -/

section

open Warranted

variable (validation : Validation)

theorem warranted_readInteger (word : String) : Warranted validation (readInteger word) := by
  rw [readInteger]
  split
  · exact ok _
  · exact error trivial

namespace Quantity

theorem warranted_ofToken (token : Token) : Warranted validation (ofToken token) := by
  cases token with
  | group group => exact ok _
  | bare word | quoted word => exact (warranted_readInteger validation word).map _

theorem warranted_ofCountToken (token : Token) : Warranted validation (ofCountToken token) := by
  cases token with
  | group group => exact ok _
  | bare word | quoted word =>
    rw [ofCountToken]
    split
    · exact (warranted_readInteger validation word).map _
    · exact ok _

end Quantity

namespace Slots

/-- A field is at fault if it is missing, or outside an enforced list. -/
theorem warranted_takeField (tokens : List Token) :
    Warranted validation (takeField validation tokens) := by
  have hword (word : String) (rest : List Token) : Warranted validation
      (if validation.AdmitsField word then .ok (word, rest) else .error (.unknownField word)) := by
    split
    · exact ok _
    · next hrefused => exact error hrefused
  rw [takeField.eq_def]
  split
  · exact error trivial
  · exact error trivial
  · exact hword _ _
  · exact hword _ _

theorem warranted_modifier (tokens : List Token) :
    Warranted validation (modifier validation tokens) := by
  refine (warranted_takeField validation tokens).bind fun ⟨field, rest⟩ => ?_
  cases rest with
  | nil => exact error trivial
  | cons token rest => exact (Quantity.warranted_ofToken validation token).bind fun _ => ok _

theorem warranted_generate (tokens : List Token) : Warranted validation (generate tokens) :=
  (Warranted.takeChecked (fun token => (Quantity.warranted_ofToken validation token).map _)
    tokens).bind fun _ => ok _

theorem warranted_resourceCount (tokens : List Token) :
    Warranted validation (resourceCount tokens) :=
  (Warranted.takeChecked (Quantity.warranted_ofCountToken validation) tokens).bind fun _ => ok _

theorem warranted_literalValue (word : String) : Warranted validation (literalValue word) := by
  rw [literalValue]
  split
  · exact (warranted_readInteger validation word).map _
  · split <;> exact ok _

theorem warranted_readValue (token : Token) : Warranted validation (readValue token) := by
  cases token with
  | group group => exact ok _
  | quoted text => exact ok _
  | bare word =>
    rw [readValue]
    split
    · exact ok _
    · exact (warranted_literalValue validation word).map _

theorem warranted_generic (tokens : List Token) : Warranted validation (generic tokens) :=
  (Warranted.takeChecked (warranted_readValue validation) tokens).bind fun _ => ok _

end Slots

namespace Instruction

/-- A word that is neither an ability nor an action is at fault for that. -/
theorem warranted_readHead (token : Token) : Warranted validation (readHead token) := by
  cases token with
  | group group => exact error trivial
  | bare word | quoted word =>
    rw [readHead]
    split
    · exact ok _
    · exact ok _
    · exact error trivial

theorem warranted_readAbility (tokens : List Token) :
    Warranted validation (readAbility tokens) := by
  rw [readAbility.eq_def]
  split
  · exact error trivial
  · exact error trivial
  all_goals
    split
    · exact ok _
    · exact error trivial

/-- What the head of an instruction reads is at fault only as its slots are. -/
theorem warranted_ofHead (text : String) (tokens : List Token) (head : Head) :
    Warranted validation (ofHead validation text tokens head) := by
  cases head with
  | ability ability => exact ok _
  | action action =>
    rw [ofHead]
    -- By the family that the action belongs to.
    split
    · exact (Slots.warranted_modifier validation tokens).map _
    · exact (Slots.warranted_generate validation tokens).map _
    · exact (Slots.warranted_resourceCount validation tokens).map _
    · exact (Slots.warranted_generic validation tokens).map _
    · exact (warranted_readAbility validation tokens).map _

/-- The faults of tokens are those that tokens can have. -/
theorem warranted_ofTokens (text : String) (tokens : List Token) :
    Warranted validation (ofTokens validation text tokens) := by
  rw [ofTokens]
  rcases Slot.take readTrigger tokens with ⟨trigger, rest⟩
  simp only
  split
  · next word hrefused =>
    have hword : ¬ validation.AdmitsTrigger word :=
      of_decide_eq_true (Option.filter_eq_some_iff.1 hrefused).2
    exact error hword
  · cases rest with
    | nil => exact error trivial
    | cons token args =>
      exact (warranted_readHead validation token).bind fun head =>
        (warranted_ofHead validation text args head).bind fun _ => ok _

end Instruction

end

namespace Instruction

variable {validation : Validation} {text : String}

/-! ## Instructions from tokens -/

/-- An instruction has the slots that its head reads from the tokens after it, and the trigger in
front of it. -/
theorem exists_of_ofTokens {found : List Token} {instruction : Instruction}
    (h : ofTokens validation text found = .ok instruction) :
    ∃ head untriggered,
      ofHead validation text (Slot.take readTrigger found).2.tail head = .ok untriggered ∧
        instruction = { untriggered with trigger := (Slot.take readTrigger found).1 } := by
  rcases htake : Slot.take readTrigger found with ⟨trigger, rest⟩
  rw [ofTokens, htake] at h
  simp only at h
  split at h
  · cases h
  · cases rest with
    | nil => cases h
    | cons token args =>
      obtain ⟨head, -, hhead⟩ := exists_of_bind_eq_ok h
      obtain ⟨untriggered, huntriggered, hresult⟩ := exists_of_bind_eq_ok hhead
      cases hresult
      exact ⟨head, untriggered, huntriggered, rfl⟩

theorem text_eq_of_ofHead {args : List Token} {head : Head} {instruction : Instruction}
    (h : ofHead validation text args head = .ok instruction) : instruction.text = text := by
  cases head with
  | ability ability =>
    cases h
    rfl
  | action action =>
    rw [ofHead] at h
    split at h
    all_goals
      obtain ⟨found, -, rfl⟩ := exists_of_map_eq_ok h
      rfl

/-- An instruction holds the text that it is read from. -/
theorem text_eq_of_ofTokens {found : List Token} {instruction : Instruction}
    (h : ofTokens validation text found = .ok instruction) : instruction.text = text := by
  obtain ⟨head, untriggered, hhead, hinstruction⟩ := exists_of_ofTokens h
  have htext := text_eq_of_ofHead hhead
  rw [hinstruction]
  exact htext

/-! ## The four ways -/

/-- The ways in which reading a text as an instruction comes out. -/
inductive Outcome (validation : Validation) (text : String) :
    Except Error (Option Instruction) → Prop
  /-- The delimiters do not match. -/
  | unbalanced {blamed : ScanError} (hscan : Token.scan text.toList = .error blamed) :
      Outcome validation text (.error ⟨text, .unbalanced blamed⟩)
  /-- There are no tokens. -/
  | blank (htokens : tokens text = .ok []) : Outcome validation text (.ok none)
  /-- The tokens denote an instruction. -/
  | denoted {token : Token} {rest : List Token} {instruction : Instruction}
      (htokens : tokens text = .ok (token :: rest))
      (hread : ofTokens validation text (token :: rest) = .ok instruction) :
      Outcome validation text (.ok (some instruction))
  /-- The tokens are at fault. -/
  | faulty {token : Token} {rest : List Token} {fault : Fault}
      (htokens : tokens text = .ok (token :: rest))
      (hread : ofTokens validation text (token :: rest) = .error fault) :
      Outcome validation text (.error ⟨text, fault⟩)

/-- Reading a text comes out in one of the four ways. -/
theorem outcome_parse (validation : Validation) (text : String) :
    Outcome validation text (parse validation text) := by
  rw [parse_eq]
  cases htokens : tokens text with
  | error error =>
    obtain ⟨blamed, rfl, hscan⟩ := tokens_eq_error_iff.1 htokens
    exact .unbalanced hscan
  | ok found =>
    cases found with
    | nil => exact .blank htokens
    | cons token rest =>
      rw [Except.bind, if_neg (List.cons_ne_nil token rest)]
      cases hread : ofTokens validation text (token :: rest) with
      | ok instruction => exact .denoted htokens hread
      | error fault => exact .faulty htokens hread

/-- A result of reading a text is one of the four outcomes. -/
theorem outcome_of_parse {result : Except Error (Option Instruction)}
    (h : parse validation text = result) : Outcome validation text result :=
  h ▸ outcome_parse validation text

/-- An instruction that is read from a text is read from the tokens of the text. -/
theorem exists_of_parse {instruction : Instruction}
    (h : parse validation text = .ok (some instruction)) :
    ∃ found, tokens text = .ok found ∧ ofTokens validation text found = .ok instruction := by
  cases outcome_of_parse h with
  | denoted htokens hread => exact ⟨_, htokens, hread⟩

/-- The delimiters of a text that is read match. -/
theorem exists_tokens_of_parse {result : Option Instruction}
    (h : parse validation text = .ok result) : ∃ found, tokens text = .ok found := by
  cases outcome_of_parse h with
  | blank htokens => exact ⟨[], htokens⟩
  | denoted htokens hread => exact ⟨_, htokens⟩

/-- An instruction holds the text that it is read from. -/
theorem text_eq_of_parse {instruction : Instruction}
    (h : parse validation text = .ok (some instruction)) : instruction.text = text := by
  obtain ⟨found, -, hread⟩ := exists_of_parse h
  exact text_eq_of_ofTokens hread

/-- An error holds the text that it is found in. -/
theorem text_eq_of_parse_error {error : Error} (h : parse validation text = .error error) :
    error.text = text := by
  cases outcome_of_parse h with
  | unbalanced hscan => rfl
  | faulty htokens hread => rfl

/-- A text that is refused for its delimiters has the delimiter that the error blames. -/
theorem blames_of_parse_error {error : Error} {blamed : ScanError}
    (h : parse validation text = .error error) (hfault : error.fault = .unbalanced blamed) :
    blamed.Blames text.toList := by
  cases outcome_of_parse h with
  | unbalanced hscan =>
    cases hfault
    exact Token.scan_error_iff.1 hscan
  | faulty htokens hread =>
    -- Such a fault never comes from tokens.
    cases hfault
    exact (warranted_ofTokens validation text _ _ hread).elim

/-- A text that is refused for its delimiters has no tokens for the same reason. -/
theorem tokens_eq_error_of_parse {error : Error} {blamed : ScanError}
    (h : parse validation text = .error error) (hfault : error.fault = .unbalanced blamed) :
    tokens text = .error error := by
  have hscan := Token.scan_error_iff.2 (blames_of_parse_error h hfault)
  refine tokens_eq_error_iff.2 ⟨blamed, ?_, hscan⟩
  rw [← text_eq_of_parse_error h, ← hfault]

/-- A text that has no tokens is refused for the same reason. -/
theorem parse_error_of_tokens {failure : Error} (h : tokens text = .error failure) :
    parse validation text = .error failure := by
  rw [parse_eq, h]
  rfl

/-- Every error holds the text as it was given. It is about delimiters just when the text has no
tokens, and is then the error of the tokens, whose offset counts from the start of the text as it
was given: the delimiter to blame stands there. -/
theorem anchored_of_parse_error {error : Error} (h : parse validation text = .error error) :
    error.text = text ∧
    ((∃ blamed, error.fault = .unbalanced blamed) ↔ ∃ failure, tokens text = .error failure) ∧
    ∀ failure, tokens text = .error failure → error = failure ∧
      ∃ blamed : ScanError, error.fault = .unbalanced blamed ∧ blamed.Blames text.toList ∧
        text.toList[blamed.offset]? = some blamed.imbalance.delimiter := by
  have hfailure {failure : Error} (hfailure : tokens text = .error failure) : error = failure :=
    Except.error.inj (h.symm.trans (parse_error_of_tokens hfailure))
  refine ⟨text_eq_of_parse_error h, ⟨?_, ?_⟩, ?_⟩
  · rintro ⟨blamed, hfault⟩
    exact ⟨error, tokens_eq_error_of_parse h hfault⟩
  · rintro ⟨failure, htokens⟩
    obtain ⟨blamed, hunbalanced, -⟩ := tokens_eq_error_iff.1 htokens
    exact ⟨blamed, by rw [hfailure htokens, hunbalanced]⟩
  · intro failure htokens
    obtain ⟨blamed, hunbalanced, hscan⟩ := tokens_eq_error_iff.1 htokens
    have hblames := Token.scan_error_iff.1 hscan
    exact ⟨hfailure htokens, blamed, by rw [hfailure htokens, hunbalanced], hblames,
      hblames.getElem?_eq⟩

/-- The blanks in front of a text, of one character but two and three bytes each, count in the
offset of a quote that is left open. -/
theorem anchored_of_parse_error_indented :
    let text := "\u00a0\u3000create \"Élan"
    let error : Error := ⟨text, .unbalanced ⟨.unterminatedQuote, 9⟩⟩
    parse .strict text = .error error ∧ tokens text = .error error ∧
      text.toList[9]? = some '"' := by
  intro text error
  have hparse : parse .strict text = .error error := by decide
  obtain ⟨-, hiff, hanchored⟩ := anchored_of_parse_error hparse
  obtain ⟨failure, htokens⟩ := hiff.1 ⟨⟨.unterminatedQuote, 9⟩, rfl⟩
  obtain ⟨rfl, blamed, hfault, -, hdelimiter⟩ := hanchored failure htokens
  cases hfault
  exact ⟨hparse, htokens, hdelimiter⟩

end Instruction

end CardEffects
