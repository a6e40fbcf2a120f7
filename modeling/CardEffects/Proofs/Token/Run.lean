import CardEffects.Proofs.Token.Delimited

/-!
# Runs of the scanner

What the scanner does on the pieces of the delimiter grammar. The ways in which a character is taken
are listed once, as the constructors of a relation; a run over a literal, over the inside of a group
or over any text of the grammar follows from those by induction on the text.

* `Scanner.Step`: the ways in which the scanner takes a character.
* `Scanner.run_induction_reading`, `Scanner.run_induction`: what every way of taking a character
  keeps, of the scanner and of the text it has read or of the scanner alone, a whole run keeps.
* `Scanner.run_quoted`, `Scanner.run_grouped`: the inside of a literal and of a group is collected.
* `Scanner.run_literal`, `Scanner.run_group`: a whole literal and a whole group make one token.
* `Scanner.passes_of_delimited`: a text whose delimiters match leaves the scanner outside of them.
-/

namespace CardEffects

namespace Scanner

/-! ## One character -/

/-- The ways in which the scanner takes a character. -/
inductive Step : Scanner → Char → Scanner → Prop
  /-- A quote outside of all delimiters ends a word and opens a literal. -/
  | openQuote {position : ℕ} {tokens : List Token} {pending : List Char} :
      Step ⟨position, tokens, .bare pending⟩ '"'
        ⟨position + 1, flushBare tokens pending, .quoted position []⟩
  /-- A parenthesis outside of all delimiters ends a word and opens a group. -/
  | openGroup {position : ℕ} {tokens : List Token} {pending : List Char} :
      Step ⟨position, tokens, .bare pending⟩ '('
        ⟨position + 1, flushBare tokens pending, .grouped position 0 []⟩
  /-- A blank outside of all delimiters ends a word. -/
  | blank {position : ℕ} {tokens : List Token} {pending : List Char}
      {c : Char} (hblank : Text.isBlank c = true) :
      Step ⟨position, tokens, .bare pending⟩ c
        ⟨position + 1, flushBare tokens pending, .bare []⟩
  /-- Any other character outside of all delimiters is part of a word. -/
  | word {position : ℕ} {tokens : List Token} {pending : List Char}
      {c : Char} (hquote : c ≠ '"') (hopen : c ≠ '(') (hclose : c ≠ ')')
      (hblank : Text.isBlank c = false) :
      Step ⟨position, tokens, .bare pending⟩ c ⟨position + 1, tokens, .bare (c :: pending)⟩
  /-- A quote inside quotes ends the literal. -/
  | closeQuote {position opening : ℕ} {tokens : List Token} {pending : List Char} :
      Step ⟨position, tokens, .quoted opening pending⟩ '"'
        ⟨position + 1, flushQuoted tokens pending, .bare []⟩
  /-- Any other character inside quotes is part of the literal. -/
  | literal {position opening : ℕ} {tokens : List Token} {pending : List Char}
      {c : Char} (hquote : c ≠ '"') :
      Step ⟨position, tokens, .quoted opening pending⟩ c
        ⟨position + 1, tokens, .quoted opening (c :: pending)⟩
  /-- A parenthesis opened inside a group leaves a blank there. -/
  | openInner {position opening inner : ℕ} {tokens : List Token} {pending : List Char} :
      Step ⟨position, tokens, .grouped opening inner pending⟩ '('
        ⟨position + 1, tokens, .grouped opening (inner + 1) (' ' :: pending)⟩
  /-- An inner parenthesis, when closed, leaves a blank in the group. -/
  | closeInner {position opening inner : ℕ} {tokens : List Token} {pending : List Char} :
      Step ⟨position, tokens, .grouped opening (inner + 1) pending⟩ ')'
        ⟨position + 1, tokens, .grouped opening inner (' ' :: pending)⟩
  /-- The outermost parenthesis, when closed, ends the group. -/
  | closeGroup {position opening : ℕ} {tokens : List Token} {pending : List Char} :
      Step ⟨position, tokens, .grouped opening 0 pending⟩ ')'
        ⟨position + 1, flushGroup tokens pending, .bare []⟩
  /-- Any other character inside parentheses is part of the group. -/
  | inside {position opening inner : ℕ} {tokens : List Token} {pending : List Char}
      {c : Char} (hopen : c ≠ '(') (hclose : c ≠ ')') :
      Step ⟨position, tokens, .grouped opening inner pending⟩ c
        ⟨position + 1, tokens, .grouped opening inner (c :: pending)⟩

variable {position opening inner : ℕ} {tokens : List Token} {pending : List Char} {c : Char}

/-- No delimiter is a blank. -/
theorem ne_of_isBlank (hblank : Text.isBlank c = true) : c ≠ '"' ∧ c ≠ '(' ∧ c ≠ ')' := by
  refine ⟨?_, ?_, ?_⟩ <;> rintro rfl <;> exact absurd hblank (by decide)

/-- The scanner goes on in the ways listed. -/
theorem Step.step_eq {scanner scanner' : Scanner} (h : Step scanner c scanner') :
    scanner.step c = .ok scanner' := by
  cases h with
  | blank hblank =>
    obtain ⟨hquote, hopen, hclose⟩ := ne_of_isBlank hblank
    simp [step, hquote, hopen, hclose, hblank]
  | word hquote hopen hclose hblank => simp [step, hquote, hopen, hclose, hblank]
  | literal hquote => simp [step, hquote]
  | inside hopen hclose => simp [step, hopen, hclose]
  | _ => rfl

/-- Outside of groups a closing parenthesis is an error. -/
theorem step_unmatched {scanner : Scanner} (h : scanner.mode = .bare pending) :
    scanner.step ')' = .error ⟨.unmatchedClose, scanner.position⟩ := by
  simp [step, h]

/-- The scanner goes on in one of the ways listed, or it stands outside of all delimiters and meets
a parenthesis that closes nothing. -/
theorem step_cases (scanner : Scanner) (c : Char) :
    (∃ scanner', Step scanner c scanner') ∨ c = ')' ∧ ∃ pending, scanner.mode = .bare pending := by
  obtain ⟨position, tokens, mode⟩ := scanner
  cases mode with
  | bare pending =>
    rcases eq_or_ne c '"' with rfl | hquote
    · exact .inl ⟨_, .openQuote⟩
    rcases eq_or_ne c '(' with rfl | hopen
    · exact .inl ⟨_, .openGroup⟩
    rcases eq_or_ne c ')' with rfl | hclose
    · exact .inr ⟨rfl, pending, rfl⟩
    cases hblank : Text.isBlank c with
    | true => exact .inl ⟨_, .blank hblank⟩
    | false => exact .inl ⟨_, .word hquote hopen hclose hblank⟩
  | quoted opening pending =>
    rcases eq_or_ne c '"' with rfl | hquote
    · exact .inl ⟨_, .closeQuote⟩
    · exact .inl ⟨_, .literal hquote⟩
  | grouped opening inner pending =>
    rcases eq_or_ne c '(' with rfl | hopen
    · exact .inl ⟨_, .openInner⟩
    rcases eq_or_ne c ')' with rfl | hclose
    · cases inner with
      | zero => exact .inl ⟨_, .closeGroup⟩
      | succ inner => exact .inl ⟨_, .closeInner⟩
    · exact .inl ⟨_, .inside hopen hclose⟩

/-- The scanner goes on in the ways listed, and in no other. -/
theorem step_eq_ok_iff {scanner scanner' : Scanner} :
    scanner.step c = .ok scanner' ↔ Step scanner c scanner' := by
  refine ⟨fun h => ?_, Step.step_eq⟩
  rcases step_cases scanner c with ⟨next, hnext⟩ | ⟨rfl, pending, hmode⟩
  · rw [hnext.step_eq] at h
    cases h
    exact hnext
  · rw [step_unmatched hmode] at h
    cases h

/-- A run goes on from where the first character leads. -/
theorem Step.run_cons {scanner scanner' : Scanner} (h : Step scanner c scanner')
    (text : List Char) : scanner.run (c :: text) = scanner'.run text := by
  rw [Scanner.run_cons, h.step_eq, Except.bind]

theorem run_cons_unmatched {scanner : Scanner} (h : scanner.mode = .bare pending)
    (text : List Char) :
    scanner.run (')' :: text) = .error ⟨.unmatchedClose, scanner.position⟩ := by
  rw [Scanner.run_cons, step_unmatched h, Except.bind]

/-- What every way of taking a character keeps, a whole run keeps. What is kept can be about the
text that has been read. -/
theorem run_induction_reading {P : List Char → Scanner → Prop}
    (hstep : ∀ {read scanner c scanner'}, Step scanner c scanner' → P read scanner →
      P (read ++ [c]) scanner')
    {scanner scanner' : Scanner} {text : List Char} (hrun : scanner.run text = .ok scanner')
    (read : List Char) (h : P read scanner) : P (read ++ text) scanner' := by
  -- On the text, for all scanners, since every character leads to another one.
  induction text generalizing scanner read with
  | nil =>
    cases hrun
    rw [List.append_nil]
    exact h
  | cons c text ih =>
    rcases step_cases scanner c with ⟨next, hnext⟩ | ⟨rfl, pending, hmode⟩
    · rw [hnext.run_cons] at hrun
      rw [List.append_cons]
      exact ih hrun (read ++ [c]) (hstep hnext h)
    · rw [run_cons_unmatched hmode] at hrun
      cases hrun

/-- What is kept need not be about the text. -/
theorem run_induction {Keeps : Scanner → Prop}
    (hstep : ∀ {scanner c scanner'}, Step scanner c scanner' → Keeps scanner → Keeps scanner')
    {scanner scanner' : Scanner} {text : List Char} (hrun : scanner.run text = .ok scanner')
    (h : Keeps scanner) : Keeps scanner' :=
  run_induction_reading (P := fun _ => Keeps) hstep hrun [] h

/-! ## Literals and groups -/

/-- A text without quotes is collected as it stands inside quotes. -/
theorem run_quoted {literal : List Char} (hliteral : '"' ∉ literal) :
    run ⟨position, tokens, .quoted opening pending⟩ literal =
      .ok ⟨position + literal.length, tokens, .quoted opening (literal.reverse ++ pending)⟩ := by
  induction literal generalizing position pending with
  | nil => rfl
  | cons c literal ih =>
    rw [List.mem_cons, not_or] at hliteral
    rw [(Step.literal (Ne.symm hliteral.1)).run_cons, ih hliteral.2]
    simp [Nat.add_assoc, Nat.add_comm 1]

/-- A literal from its opening quote to its closing one. -/
theorem run_literal {literal : List Char} (hliteral : '"' ∉ literal) :
    run ⟨position, tokens, .bare pending⟩ ('"' :: (literal ++ ['"'])) =
      .ok ⟨position + literal.length + 2,
        flushQuoted (flushBare tokens pending) literal.reverse, .bare []⟩ := by
  rw [Step.openQuote.run_cons, run_append, run_quoted hliteral, Except.bind,
    Step.closeQuote.run_cons]
  simp [Nat.add_right_comm]

/-- A text with a blank in the place of each parenthesis. -/
def blankParentheses (text : List Char) : List Char :=
  text.map fun c => if c = '(' ∨ c = ')' then ' ' else c

/-- A text without parentheses has none to make blank. -/
theorem blankParentheses_of_forall_ne {text : List Char} (h : ∀ c ∈ text, c ≠ '(' ∧ c ≠ ')') :
    blankParentheses text = text := by
  refine (List.map_congr_left fun c hc => ?_).trans (List.map_id text)
  simp [h c hc]

/-- A text with matching parentheses is collected inside a group, with blanks for the
parentheses. -/
theorem run_grouped {text : List Char} (htext : Nested text) :
    run ⟨position, tokens, .grouped opening inner pending⟩ text =
      .ok ⟨position + text.length, tokens,
        .grouped opening inner ((blankParentheses text).reverse ++ pending)⟩ := by
  -- On the derivation: a group inside the text is passed at one depth more, hence for all depths.
  induction htext generalizing position inner pending with
  | nil => rfl
  | plain hopen hclose _ ih =>
    rw [(Step.inside hopen hclose).run_cons, ih]
    simp [blankParentheses, hopen, hclose, Nat.add_assoc, Nat.add_comm 1]
  | group _ _ ihInner ihText =>
    rw [Step.openInner.run_cons, run_append, ihInner, Except.bind, Step.closeInner.run_cons,
      ihText]
    simp [blankParentheses, Nat.add_comm, Nat.add_left_comm]

/-- A group from its opening parenthesis to its closing one. -/
theorem run_group {text : List Char} (htext : Nested text) :
    run ⟨position, tokens, .bare pending⟩ ('(' :: (text ++ [')'])) =
      .ok ⟨position + text.length + 2,
        flushGroup (flushBare tokens pending) (blankParentheses text).reverse, .bare []⟩ := by
  rw [Step.openGroup.run_cons, run_append, run_grouped htext, Except.bind,
    Step.closeGroup.run_cons]
  simp [Nat.add_right_comm]

/-! ## Texts of the grammar -/

/-- Outside of all delimiters the scanner gets over the text, wherever it comes from, and is outside
of all delimiters again. -/
def Passes (text : List Char) : Prop :=
  ∀ position tokens pending, ∃ tokens' pending',
    run ⟨position, tokens, .bare pending⟩ text =
      .ok ⟨position + text.length, tokens', .bare pending'⟩

/-- A text that leaves the scanner outside, followed by another, does so as a whole. -/
theorem Passes.append {first second : List Char} (hfirst : Passes first)
    (hsecond : Passes second) : Passes (first ++ second) := by
  intro position tokens pending
  obtain ⟨tokens₁, pending₁, hrun₁⟩ := hfirst position tokens pending
  obtain ⟨tokens₂, pending₂, hrun₂⟩ := hsecond (position + first.length) tokens₁ pending₁
  refine ⟨tokens₂, pending₂, ?_⟩
  rw [run_append, hrun₁, Except.bind, hrun₂, List.length_append, Nat.add_assoc]

/-- A character that is no delimiter leaves the scanner outside. -/
theorem passes_singleton (hquote : c ≠ '"') (hopen : c ≠ '(') (hclose : c ≠ ')') :
    Passes [c] := by
  intro position tokens pending
  -- A blank ends the pending word and any other character joins it; both stay outside.
  cases hblank : Text.isBlank c with
  | true => exact ⟨_, _, (Step.blank hblank).run_cons []⟩
  | false => exact ⟨_, _, (Step.word hquote hopen hclose hblank).run_cons []⟩

/-- A literal leaves the scanner outside. -/
theorem passes_literal {literal : List Char} (hliteral : '"' ∉ literal) :
    Passes ('"' :: (literal ++ ['"'])) := by
  intro position tokens pending
  exact ⟨_, _, by simpa [Nat.add_assoc] using run_literal hliteral⟩

theorem passes_group {text : List Char} (htext : Nested text) :
    Passes ('(' :: (text ++ [')'])) := by
  intro position tokens pending
  exact ⟨_, _, by simpa [Nat.add_assoc] using run_group htext⟩

/-- The scanner gets over every text whose delimiters match. -/
theorem passes_of_delimited {text : List Char} (h : Delimited text) : Passes text := by
  induction h with
  | nil => exact fun _ tokens pending => ⟨tokens, pending, rfl⟩
  | plain hquote hopen hclose _ ih => exact (passes_singleton hquote hopen hclose).append ih
  | quoted hliteral _ ih => simpa using (passes_literal hliteral).append ih
  | group hinner _ ih => simpa using (passes_group hinner).append ih

/-! ## Delimiters that are never matched -/

/-- Inside a group the scanner stays there at a character, unless that character and the text after
it close the parentheses that are open. -/
theorem step_grouped_stays {text : List Char}
    (hopen : ∀ body rest, Closes inner body → c :: text ≠ body ++ ')' :: rest) :
    ∃ inner' pending', Step ⟨position, tokens, .grouped opening inner pending⟩ c
        ⟨position + 1, tokens, .grouped opening inner' pending'⟩ ∧
      ∀ body rest, Closes inner' body → text ≠ body ++ ')' :: rest := by
  -- The depth is that of the parentheses open inside the group, and `Closes` follows it: whatever
  -- would close them all after `c` would, with `c` in front, have closed them all before it.
  by_cases hc : c = '('
  · subst hc
    refine ⟨inner + 1, _, .openInner, fun body rest hbody heq => ?_⟩
    exact hopen ('(' :: body) rest hbody.opening (by rw [heq]; rfl)
  by_cases hc' : c = ')'
  · subst hc'
    cases inner with
    | zero =>
      -- This one would have closed the group.
      exact absurd rfl (hopen [] text .nil)
    | succ inner =>
      refine ⟨inner, _, .closeInner, fun body rest hbody heq => ?_⟩
      exact hopen (')' :: body) rest hbody.closing (by rw [heq]; rfl)
  · refine ⟨inner, _, .inside hc hc', fun body rest hbody heq => ?_⟩
    exact hopen (c :: body) rest (hbody.plain hc hc') (by rw [heq]; rfl)

/-- Inside a group the scanner stays there to the end of a text that does not close the parentheses
that are open. -/
theorem run_grouped_stays {text : List Char}
    (hopen : ∀ body rest, Closes inner body → text ≠ body ++ ')' :: rest) :
    ∃ inner' pending', run ⟨position, tokens, .grouped opening inner pending⟩ text =
      .ok ⟨position + text.length, tokens, .grouped opening inner' pending'⟩ := by
  induction text generalizing position inner pending with
  | nil => exact ⟨inner, pending, rfl⟩
  | cons c text ih =>
    obtain ⟨inner₁, pending₁, hstep, hopen₁⟩ := step_grouped_stays hopen
    obtain ⟨inner₂, pending₂, hrun⟩ := ih hopen₁
    refine ⟨inner₂, pending₂, ?_⟩
    rw [hstep.run_cons, hrun, List.length_cons, Nat.add_right_comm, Nat.add_assoc]

/-- From the start of a text that is out of balance the scanner never comes back outside. -/
theorem run_finish_of_begins {imbalance : Imbalance} {text : List Char}
    (h : imbalance.Begins text) :
    (run ⟨position, tokens, .bare pending⟩ text).bind finish = .error ⟨imbalance, position⟩ := by
  cases imbalance with
  | unmatchedClose =>
    obtain ⟨rest, rfl⟩ := List.head?_eq_some_iff.1 h
    rw [run_cons_unmatched rfl]
    rfl
  | unterminatedQuote =>
    -- The rest of the text is collected as a literal, which is still open at the end.
    obtain ⟨hhead, hliteral⟩ := h
    obtain ⟨literal, rfl⟩ := List.head?_eq_some_iff.1 hhead
    rw [List.tail_cons] at hliteral
    rw [Step.openQuote.run_cons, run_quoted hliteral]
    rfl
  | unclosedGroup =>
    obtain ⟨hhead, hunclosed⟩ := h
    obtain ⟨rest, rfl⟩ := List.head?_eq_some_iff.1 hhead
    -- Inner groups may well be closed in the rest of the text, but never this one.
    have hopen : ∀ body after, Closes 0 body → rest ≠ body ++ ')' :: after := by
      rintro body after hbody rfl
      exact hunclosed body hbody ⟨after, by simp⟩
    obtain ⟨inner', pending', hrun⟩ := run_grouped_stays hopen
    rw [Step.openGroup.run_cons, hrun]
    rfl

end Scanner

end CardEffects
