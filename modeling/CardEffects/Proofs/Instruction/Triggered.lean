import CardEffects.Proofs.Instruction.Lookahead
import CardEffects.Proofs.Token.Rendering

/-!
# A trigger in front

A trigger says when something is done and has no say in what is done. A text with a trigger in front
of it is read as it is without, up to the trigger; what is wrong with it is wrong with it all the
same, as many characters further right as the trigger takes. There are two differences. A trigger
alone is not an instruction, although a text without tokens is read as none; and a second trigger is
not a trigger any more, so that it is taken for an action, which it never is.

* `Instruction.StartsTriggered`: the text has a trigger itself.
* `Instruction.tokens_triggered`: the trigger is one token more.
* `Instruction.ofTokens_of_trigger`, `Instruction.ofTokens_of_no_trigger`: how tokens are read with
  a trigger and without one.
* `Instruction.ofTokens_triggered`: tokens are read behind a trigger as they are on their own.
* `Instruction.parse_triggered`: what becomes of a text behind a trigger.
-/

namespace CardEffects

/-- The same fault in a text that has `count` more characters in front. -/
def Fault.shift (count : ℕ) : Fault → Fault
  | unbalanced error => unbalanced (error.shift count)
  | fault => fault

/-- The faults of tokens have no offset. -/
theorem Fault.Warranted.shift_eq {validation : Validation} {fault : Fault}
    (h : fault.Warranted validation) (count : ℕ) : fault.shift count = fault := by
  cases fault with
  | unbalanced error => exact h.elim
  | _ => rfl

namespace Instruction

/-- The first token of the text is the word or the quoted literal `second`, and reads as a
trigger. -/
def StartsTriggered (text second : String) : Prop :=
  ∃ token rest, tokens text = .ok (token :: rest) ∧ token.text? = some second ∧
    IsTriggerWord second

variable {validation : Validation} {word : String}

/-! ## The tokens -/

/-- A well-formed word is one token. -/
theorem scan_word (hword : (Token.bare word).WellFormed) :
    Token.scan word.toList = .ok [.bare word] := by
  have hrender : Token.renderAll [.bare word] = word := String.intercalate_singleton
  have hscan := Token.scan_renderAll (List.forall_mem_singleton.2 hword)
  rwa [hrender] at hscan

/-- A word in front of a text is one token more, and moves what is wrong with the text to the
right. -/
theorem scan_triggered (hword : (Token.bare word).WellFormed) (text : String) :
    Token.scan (word ++ " " ++ text).toList =
      ((Token.scan text.toList).map (.bare word :: ·)).mapError (·.shift (word.length + 1)) := by
  have hspace : (" " : String).toList = [' '] := rfl
  rw [String.toList_append, String.toList_append, hspace, List.append_assoc, List.singleton_append,
    Token.scan_append_blank (scan_word hword) (by decide), String.length_toList]
  rfl

/-- A word in front of a text is a token in front of its tokens. -/
theorem tokens_triggered (hword : (Token.bare word).WellFormed) {text : String}
    {found : List Token} (h : tokens text = .ok found) :
    tokens (word ++ " " ++ text) = .ok (.bare word :: found) := by
  rw [tokens_eq_ok_iff] at h ⊢
  rw [scan_triggered hword, h]
  rfl

/-! ## What is read from them -/

/-- A token is a trigger if it is a trigger word, bare or quoted. -/
theorem readTrigger_eq_some_iff {token : Token} {second : String} :
    readTrigger token = some second ↔ token.text? = some second ∧ IsTriggerWord second := by
  simp [readTrigger, Option.filter_eq_some_iff]

/-- What reads as a trigger names neither an action nor an ability. -/
theorem readHead_of_trigger {token : Token} {second : String}
    (htoken : readTrigger token = some second) :
    readHead token = .error (.unknownAction second) := by
  obtain ⟨htext, hsecond⟩ := readTrigger_eq_some_iff.1 htoken
  have hability : (Keyword.ofWord? second : Option Ability) = none := by
    refine Option.eq_none_iff_forall_ne_some.2 fun ability hability => ?_
    rw [← Keyword.ofWord?_eq_some_iff.1 hability] at hsecond
    exact not_isTriggerWord_ability ability hsecond
  have haction : (Keyword.ofWord? second : Option Action) = none := by
    refine Option.eq_none_iff_forall_ne_some.2 fun action haction => ?_
    rw [← Keyword.ofWord?_eq_some_iff.1 haction] at hsecond
    exact not_isTriggerWord_action action hsecond
  cases token with
  | bare word | quoted word =>
    cases htext
    simp [readHead, hability, haction]
  | group group => cases htext

section

variable (text : String) {first token : Token}

theorem filter_admitted (hadmits : validation.AdmitsTrigger word) :
    ((some word).filter fun word => ¬ validation.AdmitsTrigger word) = none := by
  simp [Option.filter, hadmits]

/-- A trigger that is admitted is taken, and then an action is missing. -/
theorem ofTokens_trigger_alone (hfirst : readTrigger first = some word)
    (hadmits : validation.AdmitsTrigger word) :
    ofTokens validation text [first] = .error (.missing .action) := by
  simp only [ofTokens, Slot.take_cons_of_some hfirst, filter_admitted hadmits]

/-- A trigger that is admitted is taken, and an action is looked for behind it. -/
theorem ofTokens_of_trigger (hfirst : readTrigger first = some word)
    (hadmits : validation.AdmitsTrigger word) (token : Token) (args : List Token) :
    ofTokens validation text (first :: token :: args) = readHead token >>= fun head =>
      (ofHead validation text args head).map ({ · with trigger := some word }) := by
  simp only [ofTokens, Slot.take_cons_of_some hfirst, filter_admitted hadmits]
  rfl

/-- Without a trigger an action is looked for at once. -/
theorem ofTokens_of_no_trigger (htoken : readTrigger token = none) (args : List Token) :
    ofTokens validation text (token :: args) = readHead token >>= fun head =>
      (ofHead validation text args head).map ({ · with trigger := none }) := by
  simp only [ofTokens, Slot.take_cons_of_none htoken, Option.filter_none]
  rfl

/-- Tokens of which the first is no trigger are read behind one as they are on their own. -/
theorem ofTokens_triggered (hfirst : readTrigger first = some word)
    (hadmits : validation.AdmitsTrigger word) (htoken : readTrigger token = none)
    (args : List Token) :
    ofTokens validation text (first :: token :: args) =
      (ofTokens validation text (token :: args)).map ({ · with trigger := some word }) := by
  rw [ofTokens_of_trigger text hfirst hadmits, ofTokens_of_no_trigger text htoken]
  -- Both read the same head and what is behind it, and differ in the trigger that they note.
  cases readHead token with
  | error fault => rfl
  | ok head =>
    show (ofHead validation text args head).map _ =
      ((ofHead validation text args head).map _).map _
    cases ofHead validation text args head <;> rfl

/-- A second trigger is taken for an action. -/
theorem ofTokens_triggered_twice (hfirst : readTrigger first = some word)
    (hadmits : validation.AdmitsTrigger word) {second : String}
    (htoken : readTrigger token = some second) (args : List Token) :
    ofTokens validation text (first :: token :: args) = .error (.unknownAction second) := by
  rw [ofTokens_of_trigger text hfirst hadmits, readHead_of_trigger htoken]
  rfl

end

/-! ## Texts -/

section

variable {text : String} (hword : (Token.bare word).WellFormed) (htrigger : IsTriggerWord word)
  (hadmits : validation.AdmitsTrigger word)

include hword

/-- A text behind a trigger is read from its tokens with one more in front. -/
theorem parse_triggered_eq {found : List Token} (htokens : tokens text = .ok found) :
    parse validation (word ++ " " ++ text) =
      ((ofTokens validation (word ++ " " ++ text) (.bare word :: found)).map some).mapError
        (⟨word ++ " " ++ text, ·⟩) := by
  rw [parse_eq_readTokens (tokens_triggered hword htokens), readTokens,
    if_neg (List.cons_ne_nil _ _)]

include htrigger hadmits

/-- A text that has tokens and no trigger itself is read behind one from the tokens that it has on
its own. -/
theorem parse_triggered_of_no_trigger {token : Token} {rest : List Token}
    (htokens : tokens text = .ok (token :: rest)) (htoken : readTrigger token = none) :
    parse validation (word ++ " " ++ text) =
      (((ofTokens validation text (token :: rest)).map
        ({ · with trigger := some word, text := word ++ " " ++ text })).map some).mapError
          (⟨word ++ " " ++ text, ·⟩) := by
  have hfirst : readTrigger (.bare word) = some word := readTrigger_eq_some_iff.2 ⟨rfl, htrigger⟩
  rw [parse_triggered_eq hword htokens, ofTokens_triggered _ hfirst hadmits htoken,
    ofTokens_text validation text]
  cases ofTokens validation text (token :: rest) <;> rfl

end

/-- A text behind a trigger that the reader admits, as it admits any unless it is told otherwise. If
the text has a trigger itself, that is taken for an action, of which there is none of this name.
Else the text is read as it is on its own: the instruction has the trigger and the whole text and is
the same in everything else; a fault is the same fault, with its offset counted from the start of
the whole text; and a text without tokens leaves the trigger without an action. -/
theorem parse_triggered (hword : (Token.bare word).WellFormed) (htrigger : IsTriggerWord word)
    (hadmits : validation.AdmitsTrigger word) (text : String) :
    let whole := word ++ " " ++ text
    (∀ second, StartsTriggered text second →
        parse validation whole = .error ⟨whole, .unknownAction second⟩) ∧
      ((∀ second, ¬ StartsTriggered text second) →
        (∀ instruction, parse validation text = .ok (some instruction) →
            parse validation whole =
              .ok (some { instruction with trigger := some word, text := whole })) ∧
          (parse validation text = .ok none →
            parse validation whole = .error ⟨whole, .missing .action⟩) ∧
          ∀ error, parse validation text = .error error →
            parse validation whole = .error ⟨whole, error.fault.shift (word.length + 1)⟩) := by
  intro whole
  have hfirst : readTrigger (.bare word) = some word := readTrigger_eq_some_iff.2 ⟨rfl, htrigger⟩
  refine ⟨fun second ⟨token, rest, htokens, hsecond⟩ => ?_, fun hnone => ?_⟩
  · rw [parse_triggered_eq hword htokens, ofTokens_triggered_twice whole hfirst hadmits
      (readTrigger_eq_some_iff.2 hsecond)]
    rfl
  -- Otherwise the first token, if there is one, is read in the place of the action.
  have hbehind {token : Token} {rest : List Token} (htokens : tokens text = .ok (token :: rest)) :
      parse validation whole =
        (((ofTokens validation text (token :: rest)).map
          ({ · with trigger := some word, text := whole })).map some).mapError (⟨whole, ·⟩) := by
    refine parse_triggered_of_no_trigger hword htrigger hadmits htokens ?_
    refine Option.eq_none_iff_forall_ne_some.2 fun second hsecond => ?_
    exact hnone second ⟨token, rest, htokens, readTrigger_eq_some_iff.1 hsecond⟩
  refine ⟨fun instruction hparse => ?_, fun hparse => ?_, fun error hparse => ?_⟩
  · cases outcome_of_parse hparse with
    | denoted htokens hfound =>
      rw [hbehind htokens, hfound]
      rfl
  · cases outcome_of_parse hparse with
    | blank htokens =>
      rw [parse_triggered_eq hword htokens, ofTokens_trigger_alone whole hfirst hadmits]
      rfl
  · cases outcome_of_parse hparse with
    | unbalanced hscan =>
      refine parse_error_of_tokens (tokens_eq_error_iff.2 ⟨_, rfl, ?_⟩)
      rw [scan_triggered hword, hscan]
      rfl
    | faulty htokens hfound =>
      rw [hbehind htokens, hfound, (warranted_ofTokens validation text _ _ hfound).shift_eq]
      rfl

/-- An ability's word is looked up as a whole where it stands alone and is a head like any other
behind a trigger; a quote left open is found where it is; and neither a second trigger nor a literal
of blanks alone is an action. -/
theorem parse_triggered_tapfor :
    (parse .advisory "haste" = .ok (some (ofAbility .haste "haste")) ∧
        parse .advisory "tapfor haste" =
          .ok (some { ofAbility .haste "tapfor haste" with trigger := some "tapfor" })) ∧
      (parse .advisory " create \"Élan" =
          .error ⟨" create \"Élan", .unbalanced ⟨.unterminatedQuote, 8⟩⟩ ∧
        parse .advisory "tapfor  create \"Élan" =
          .error ⟨"tapfor  create \"Élan", .unbalanced ⟨.unterminatedQuote, 15⟩⟩) ∧
      parse .advisory "tapfor \"why?\" draw" =
        .error ⟨"tapfor \"why?\" draw", .unknownAction "why?"⟩ ∧
      parse .advisory "tapfor \" \"" = .error ⟨"tapfor \" \"", .missing .action⟩ := by
  have hword : (Token.bare "tapfor").WellFormed := by decide
  have htrigger : IsTriggerWord "tapfor" := by decide
  have hadmits : Validation.advisory.AdmitsTrigger "tapfor" := Validation.admitsTrigger_advisory _
  have htapfor := parse_triggered hword htrigger hadmits
  have hnone {text : String} (h : (tokens text).toOption.bind (·.head?.bind readTrigger) = none) :
      ∀ second, ¬ StartsTriggered text second := by
    rintro second ⟨token, rest, htokens, hsecond⟩
    rw [htokens] at h
    exact Option.some_ne_none _ ((readTrigger_eq_some_iff.2 hsecond).symm.trans h)
  have hhaste : parse .advisory "haste" = .ok (some (ofAbility .haste "haste")) := by decide
  have hopen : parse .advisory " create \"Élan" =
      .error ⟨" create \"Élan", .unbalanced ⟨.unterminatedQuote, 8⟩⟩ := by decide
  refine ⟨⟨hhaste, ?_⟩, ⟨hopen, ?_⟩, ?_, ?_⟩
  · exact ((htapfor "haste").2 (hnone (by decide))).1 (ofAbility .haste "haste") hhaste
  · exact ((htapfor " create \"Élan").2 (hnone (by decide))).2.2 _ hopen
  · exact (htapfor "\"why?\" draw").1 "why?"
      ⟨.quoted "why?", [.bare "draw"], by decide, rfl, by decide⟩
  · exact ((htapfor "\" \"").2 (hnone (by decide))).2.1 (by decide)

end Instruction

end CardEffects
