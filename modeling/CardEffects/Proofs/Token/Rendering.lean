import CardEffects.Proofs.Text.Blank
import CardEffects.Proofs.Token.Acceptance

/-!
# Rendered tokens

Reading a text and writing tokens are inverse to each other on the tokens that can be read at all.

* `Token.WellFormed`: the tokens that some text has.
* `Token.renderAll`: tokens as they are written in an instruction, one space apart.
* `Scanner.WellFormed`: what holds of a scanner in the middle of any text.
* `Token.scan_renderAll`: well-formed tokens are read back from the text in which they are written.
-/

namespace CardEffects

namespace Token

/-- The characters of the words inside a group, where a quote is an ordinary character. -/
def IsGroupChar (c : Char) : Prop :=
  Text.isBlank c = false ∧ c ≠ '(' ∧ c ≠ ')'

/-- The characters of a bare word. -/
def IsWordChar (c : Char) : Prop :=
  Text.isBlank c = false ∧ c ≠ '"' ∧ c ≠ '(' ∧ c ≠ ')'

/-- The tokens that a text can have: no token is empty but for the group without words, a word holds
no character that would end it, and a literal holds no quote and has no blanks at its ends. -/
def WellFormed : Token → Prop
  | bare word => word ≠ "" ∧ ∀ c ∈ word.toList, IsWordChar c
  | quoted text => text ≠ "" ∧ '"' ∉ text.toList ∧ Text.Trimmed text.toList
  | group g => ∀ word ∈ g.words, word ≠ "" ∧ ∀ c ∈ word.toList, IsGroupChar c

instance (c : Char) : Decidable (IsGroupChar c) :=
  inferInstanceAs (Decidable (_ ∧ _))

instance (c : Char) : Decidable (IsWordChar c) :=
  inferInstanceAs (Decidable (_ ∧ _))

-- This is found before an instance that goes through all characters.
instance (P : Char → Prop) [DecidablePred P] (word : String) :
    Decidable (∀ c ∈ word.toList, P c) :=
  List.decidableBAll P word.toList

instance (token : Token) : Decidable token.WellFormed :=
  match token with
  | bare _ => inferInstanceAs (Decidable (_ ∧ _))
  | quoted _ => inferInstanceAs (Decidable (_ ∧ _))
  | group g => inferInstanceAs (Decidable (∀ word ∈ g.words, _))

/-- Tokens as they are written in an instruction, one space apart. -/
def renderAll (tokens : List Token) : String :=
  " ".intercalate (tokens.map render)

theorem toList_ofList_ne_nil {text : List Char} (h : text ≠ []) : String.ofList text ≠ "" :=
  fun heq => h (by simpa using congrArg String.toList heq)

end Token

/-! ## Tokens that are read are well-formed -/

namespace Scanner

/-- What is pending in a mode is made of the characters that the mode collects. -/
def Mode.WellFormed : Mode → Prop
  | .bare pending => ∀ c ∈ pending, Token.IsWordChar c
  | .quoted _ pending => '"' ∉ pending
  | .grouped _ _ pending => ∀ c ∈ pending, c ≠ '(' ∧ c ≠ ')'

/-- The tokens that a scanner holds are well-formed, and so will be the one that is pending. -/
structure WellFormed (scanner : Scanner) : Prop where
  tokens : ∀ token ∈ scanner.tokens, token.WellFormed
  mode : scanner.mode.WellFormed

variable {tokens : List Token} {pending : List Char}

/-- A word that is made a token is well formed. -/
theorem flushBare_wellFormed (htokens : ∀ token ∈ tokens, token.WellFormed)
    (hpending : Mode.WellFormed (.bare pending)) :
    ∀ token ∈ flushBare tokens pending, token.WellFormed := by
  cases pending with
  | nil => exact htokens
  | cons c pending =>
    -- The pending characters are kept in reverse, which does not matter here.
    refine List.forall_mem_cons.2 ⟨⟨?_, fun c hc => hpending c ?_⟩, htokens⟩
    · exact Token.toList_ofList_ne_nil (by simp)
    · rw [String.toList_ofList] at hc
      exact List.mem_reverse.1 hc

theorem flushQuoted_wellFormed (htokens : ∀ token ∈ tokens, token.WellFormed) {opening : ℕ}
    (hpending : Mode.WellFormed (.quoted opening pending)) :
    ∀ token ∈ flushQuoted tokens pending, token.WellFormed := by
  rw [flushQuoted]
  split
  · exact htokens
  · next hne =>
    refine List.forall_mem_cons.2 ⟨⟨?_, fun hquote => hpending ?_, ?_⟩, htokens⟩
    · exact Token.toList_ofList_ne_nil (by simpa using hne)
    · rw [String.toList_ofList] at hquote
      exact List.mem_reverse.1 (Text.mem_of_mem_trim hquote)
    · rw [String.toList_ofList]
      exact Text.trimmed_trim _

theorem flushGroup_wellFormed (htokens : ∀ token ∈ tokens, token.WellFormed) {opening inner : ℕ}
    (hpending : Mode.WellFormed (.grouped opening inner pending)) :
    ∀ token ∈ flushGroup tokens pending, token.WellFormed := by
  refine List.forall_mem_cons.2 ⟨fun word hword => ?_, htokens⟩
  obtain ⟨chars, hchars, rfl⟩ := List.mem_map.1 hword
  obtain ⟨hne, hmem⟩ := Text.mem_words hchars
  refine ⟨Token.toList_ofList_ne_nil hne, fun c hc => ?_⟩
  rw [String.toList_ofList] at hc
  exact ⟨(hmem c hc).2, hpending c (List.mem_reverse.1 (hmem c hc).1)⟩

theorem wellFormed_start : start.WellFormed :=
  ⟨by simp [start], by simp [start, Mode.WellFormed]⟩

/-- Every way of taking a character keeps a scanner well-formed. -/
theorem Step.wellFormed {scanner scanner' : Scanner} {c : Char} (hstep : Step scanner c scanner')
    (h : scanner.WellFormed) : scanner'.WellFormed := by
  obtain ⟨htokens, hmode⟩ := h
  cases hstep with
  | openQuote => exact ⟨flushBare_wellFormed htokens hmode, List.not_mem_nil⟩
  | openGroup => exact ⟨flushBare_wellFormed htokens hmode, List.forall_mem_nil _⟩
  | blank => exact ⟨flushBare_wellFormed htokens hmode, List.forall_mem_nil _⟩
  | word hquote hopen hclose hblank =>
    exact ⟨htokens, List.forall_mem_cons.2 ⟨⟨hblank, hquote, hopen, hclose⟩, hmode⟩⟩
  | closeQuote => exact ⟨flushQuoted_wellFormed htokens hmode, List.forall_mem_nil _⟩
  | literal hquote => exact ⟨htokens, List.not_mem_cons_of_ne_of_not_mem (Ne.symm hquote) hmode⟩
  | openInner => exact ⟨htokens, List.forall_mem_cons.2 ⟨by decide, hmode⟩⟩
  | closeInner => exact ⟨htokens, List.forall_mem_cons.2 ⟨by decide, hmode⟩⟩
  | closeGroup => exact ⟨flushGroup_wellFormed htokens hmode, List.forall_mem_nil _⟩
  | inside hopen hclose => exact ⟨htokens, List.forall_mem_cons.2 ⟨⟨hopen, hclose⟩, hmode⟩⟩

end Scanner

/-- The tokens of a text are well-formed. -/
theorem Token.wellFormed_of_scan {text : List Char} {tokens : List Token}
    (h : Token.scan text = .ok tokens) : ∀ token ∈ tokens, token.WellFormed := by
  rw [Token.scan] at h
  cases hrun : Scanner.start.run text with
  | error error =>
    rw [hrun] at h
    cases h
  | ok scanner =>
    rw [hrun, Except.bind] at h
    -- The invariant holds at the end of the text because every step keeps it.
    have hscanner := Scanner.run_induction Scanner.Step.wellFormed hrun Scanner.wellFormed_start
    obtain ⟨position, found, mode⟩ := scanner
    -- Only outside of all delimiters does the end of the text give tokens.
    cases mode with
    | bare pending =>
      cases h
      intro token htoken
      exact Scanner.flushBare_wellFormed hscanner.tokens hscanner.mode token
        (List.mem_reverse.1 htoken)
    | quoted opening pending => cases h
    | grouped opening inner pending => cases h

/-! ## Well-formed tokens are read back -/

namespace Scanner

variable {position : ℕ} {tokens : List Token}

theorem flushBare_nil : flushBare tokens [] = tokens := rfl

/-- The characters of a word are collected. -/
theorem run_word {word pending : List Char} (hword : ∀ c ∈ word, Token.IsWordChar c) :
    run ⟨position, tokens, .bare pending⟩ word =
      .ok ⟨position + word.length, tokens, .bare (word.reverse ++ pending)⟩ := by
  induction word generalizing position pending with
  | nil => rfl
  | cons c word ih =>
    rw [List.forall_mem_cons] at hword
    obtain ⟨⟨hblank, hquote, hopen, hclose⟩, hword⟩ := hword
    rw [(Step.word hquote hopen hclose hblank).run_cons, ih hword]
    simp [Nat.add_assoc, Nat.add_comm 1]

/-- A literal without blanks at its ends becomes a token as it stands. -/
theorem flushQuoted_of_trimmed {text : String} (hne : text ≠ "")
    (htrimmed : Text.Trimmed text.toList) :
    flushQuoted tokens text.toList.reverse = .quoted text :: tokens := by
  have hempty : text.toList.isEmpty = false := by
    rw [List.isEmpty_eq_false_iff]
    simpa using hne
  simp [flushQuoted, Text.trim_eq_self htrimmed, hempty]

/-- A well-formed group is read back from its words one space apart. -/
theorem ofText_intercalate {group : Group} (h : (Token.group group).WellFormed) :
    Group.ofText ([' '].intercalate (group.words.map String.toList)) = group := by
  have hwords : ∀ word ∈ group.words.map String.toList,
      word ≠ [] ∧ ∀ c ∈ word, Text.isBlank c = false := by
    rw [List.forall_mem_map]
    exact fun word hword => ⟨by simpa using (h word hword).1, fun c hc => ((h word hword).2 c hc).1⟩
  rw [Group.ofText, Text.words_intercalate hwords, List.map_map]
  simp [Function.comp_def]

/-- A well-formed token is read back from the text in which it is written. A word is pending until
something ends it. -/
theorem run_render {token : Token} (h : token.WellFormed) :
    ∃ tokens' pending', run ⟨position, tokens, .bare []⟩ token.render.toList =
        .ok ⟨position + token.render.toList.length, tokens', .bare pending'⟩ ∧
      flushBare tokens' pending' = token :: tokens := by
  cases token with
  | bare word =>
    -- The word is not yet a token: what comes after it has to end it.
    refine ⟨tokens, word.toList.reverse ++ [], run_word h.2, ?_⟩
    simp [flushBare, h.1]
  | quoted text =>
    obtain ⟨hne, hquote, htrimmed⟩ := h
    refine ⟨.quoted text :: tokens, [], ?_, rfl⟩
    have hrender : (Token.quoted text).render.toList = '"' :: (text.toList ++ ['"']) := by
      simp [Token.render]
    rw [hrender, run_literal hquote, flushBare_nil, flushQuoted_of_trimmed hne htrimmed]
    simp [Nat.add_assoc]
  | group group =>
    refine ⟨.group group :: tokens, [], ?_, rfl⟩
    have hrender : (Token.group group).render.toList =
        '(' :: ([' '].intercalate (group.words.map String.toList) ++ [')']) := by
      simp [Token.render, Group.render, String.toList_intercalate]
    -- Only words and spaces are left inside, so that nothing has to be blanked there.
    have hplain : ∀ c ∈ [' '].intercalate (group.words.map String.toList), c ≠ '(' ∧ c ≠ ')' := by
      refine Text.forall_mem_intercalate (by decide) ?_
      rw [List.forall_mem_map]
      exact fun word hword c hc => ((h word hword).2 c hc).2
    rw [hrender, run_group (nested_of_forall_ne hplain), flushBare_nil,
      blankParentheses_of_forall_ne hplain, flushGroup, List.reverse_reverse, ofText_intercalate h]
    simp [Nat.add_assoc]

/-- Well-formed tokens are read back, after those that the scanner holds already. -/
theorem run_finish_renderAll {found : List Token} (h : ∀ token ∈ found, token.WellFormed) :
    (run ⟨position, tokens, .bare []⟩ (Token.renderAll found).toList).bind finish =
      .ok (tokens.reverse ++ found) := by
  -- On the tokens that are still to be read. The space after a token ends a word that is pending
  -- and leaves the scanner as it was before the token, with one token more.
  induction found generalizing position tokens with
  | nil => simp [Token.renderAll, Except.bind, finish, flushBare_nil]
  | cons token found ih =>
    rw [List.forall_mem_cons] at h
    obtain ⟨tokens', pending', hrun, hflush⟩ := run_render h.1
    cases found with
    | nil =>
      have hrender : Token.renderAll [token] = token.render := String.intercalate_singleton
      rw [hrender, hrun]
      simp [Except.bind, finish, hflush]
    | cons next found =>
      have hrender : (Token.renderAll (token :: next :: found)).toList =
          token.render.toList ++ ' ' :: (Token.renderAll (next :: found)).toList := by
        simp [Token.renderAll, String.intercalate_cons_cons]
      rw [hrender, run_append, hrun, Except.bind, (Step.blank (by decide)).run_cons, hflush, ih h.2]
      simp

end Scanner

namespace Token

/-- Well-formed tokens are read back from the text in which they are written. -/
theorem scan_renderAll {tokens : List Token} (h : ∀ token ∈ tokens, token.WellFormed) :
    Token.scan (renderAll tokens).toList = .ok tokens :=
  Scanner.run_finish_renderAll h

end Token

namespace Instruction

/-- The lists of tokens that some text has are those of well-formed tokens, and they are also those
that are read back from the text in which they are written. -/
theorem tokens_renderAll (found : List Token) :
    ((∃ text, tokens text = .ok found) ↔ ∀ token ∈ found, token.WellFormed) ∧
      ((∀ token ∈ found, token.WellFormed) ↔ tokens (Token.renderAll found) = .ok found) := by
  have hread (text : String) (h : tokens text = .ok found) : ∀ token ∈ found, token.WellFormed :=
    Token.wellFormed_of_scan (tokens_eq_ok_iff.1 h)
  have hwritten (h : ∀ token ∈ found, token.WellFormed) :
      tokens (Token.renderAll found) = .ok found :=
    tokens_eq_ok_iff.2 (Token.scan_renderAll h)
  exact ⟨⟨fun ⟨text, h⟩ => hread text h, fun h => ⟨_, hwritten h⟩⟩, hwritten, hread _⟩

end Instruction

end CardEffects
