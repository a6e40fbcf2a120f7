import CardEffects.Proofs.Text.Blank
import CardEffects.Proofs.Token.Acceptance

/-!
# Texts in a row

A scanner does not look back: what it does with a text depends on the characters and the tokens
before only in that offsets count from further left and that the tokens come after the earlier ones.

* `Scanner.after`: a scanner in the same mode with more text behind it.
* `Scanner.run_finish_after`: from outside of all delimiters a text is read as from the start.
* `Token.scan_trim`: blanks at the ends of a text move offsets and change nothing else.
* `Token.scan_append_blank`: after a text whose delimiters match and a blank, a text has the tokens
  that it has on its own.
* `Instruction.tokens_append_blank`: the tokens of two texts with a blank between them, or the error
  of the one that has one.
-/

namespace CardEffects

namespace Scanner

/-- The mode of a scanner that has `count` more characters behind it. -/
def Mode.shift (count : ℕ) : Mode → Mode
  | .bare pending => .bare pending
  | .quoted opening pending => .quoted (opening + count) pending
  | .grouped opening inner pending => .grouped (opening + count) inner pending

/-- A scanner in the same mode that has `count` more characters and the tokens `earlier`, the last
one first, behind it. -/
def after (scanner : Scanner) (count : ℕ) (earlier : List Token) : Scanner :=
  ⟨scanner.position + count, scanner.tokens ++ earlier, scanner.mode.shift count⟩

variable {count : ℕ} {earlier tokens : List Token} {pending : List Char}

theorem flushBare_append :
    flushBare (tokens ++ earlier) pending = flushBare tokens pending ++ earlier := by
  cases pending <;> rfl

theorem flushQuoted_append :
    flushQuoted (tokens ++ earlier) pending = flushQuoted tokens pending ++ earlier := by
  rw [flushQuoted, flushQuoted]
  split <;> rfl

theorem flushGroup_append :
    flushGroup (tokens ++ earlier) pending = flushGroup tokens pending ++ earlier := rfl

/-- A character is taken in the same way with more text behind. -/
theorem Step.after {scanner scanner' : Scanner} {c : Char} (h : Step scanner c scanner')
    (count : ℕ) (earlier : List Token) :
    Step (scanner.after count earlier) c (scanner'.after count earlier) := by
  have hposition (position : ℕ) : position + 1 + count = position + count + 1 :=
    Nat.add_right_comm _ _ _
  -- Each way of taking a character is the same way again, once the offsets are put in order.
  cases h with
  | openQuote =>
    rw [Scanner.after, Scanner.after, hposition, ← flushBare_append]
    exact .openQuote
  | openGroup =>
    rw [Scanner.after, Scanner.after, hposition, ← flushBare_append]
    exact .openGroup
  | blank hblank =>
    rw [Scanner.after, Scanner.after, hposition, ← flushBare_append]
    exact .blank hblank
  | word hquote hopen hclose hblank =>
    rw [Scanner.after, Scanner.after, hposition]
    exact .word hquote hopen hclose hblank
  | closeQuote =>
    rw [Scanner.after, Scanner.after, hposition, ← flushQuoted_append]
    exact .closeQuote
  | literal hquote =>
    rw [Scanner.after, Scanner.after, hposition]
    exact .literal hquote
  | openInner =>
    rw [Scanner.after, Scanner.after, hposition]
    exact .openInner
  | closeInner =>
    rw [Scanner.after, Scanner.after, hposition]
    exact .closeInner
  | closeGroup =>
    rw [Scanner.after, Scanner.after, hposition, ← flushGroup_append]
    exact .closeGroup
  | inside hopen hclose =>
    rw [Scanner.after, Scanner.after, hposition]
    exact .inside hopen hclose

/-- A text is read in the same way with more text behind. -/
theorem run_after (scanner : Scanner) (text : List Char) (count : ℕ) (earlier : List Token) :
    (scanner.after count earlier).run text =
      ((scanner.run text).map (·.after count earlier)).mapError (·.shift count) := by
  induction text generalizing scanner with
  | nil => rfl
  | cons c text ih =>
    rcases step_cases scanner c with ⟨next, hnext⟩ | ⟨rfl, pending, hmode⟩
    · rw [hnext.run_cons, (hnext.after count earlier).run_cons, ih]
    · -- Both fail at this character, at offsets that differ by `count`.
      have hafter : (scanner.after count earlier).mode = .bare pending := by
        rw [after, hmode, Mode.shift]
      rw [run_cons_unmatched hmode, run_cons_unmatched hafter]
      rfl

/-- What a scanner has read before comes in front of its tokens, and moves its errors to the
right. -/
theorem finish_after (scanner : Scanner) (count : ℕ) (earlier : List Token) :
    (scanner.after count earlier).finish =
      (scanner.finish.map (earlier.reverse ++ ·)).mapError (·.shift count) := by
  obtain ⟨position, tokens, mode⟩ := scanner
  cases mode with
  | bare pending =>
    simp [after, Mode.shift, finish, flushBare_append, Except.map, Except.mapError]
  | quoted opening pending => rfl
  | grouped opening inner pending => rfl

/-- From outside of all delimiters a text is read as from the start. -/
theorem run_finish_after (position : ℕ) (tokens : List Token) (text : List Char) :
    (run ⟨position, tokens, .bare []⟩ text).bind finish =
      ((Token.scan text).map (tokens.reverse ++ ·)).mapError (·.shift position) := by
  have hstart : (⟨position, tokens, .bare []⟩ : Scanner) = start.after position tokens := by
    simp [start, after, Mode.shift]
  rw [hstart, run_after, Token.scan]
  cases start.run text with
  | error error => rfl
  | ok scanner => exact finish_after scanner position tokens

/-! ## Blanks at the ends -/

/-- Blanks in front of a text are passed over. -/
theorem run_blanks {blanks : List Char} (hblanks : ∀ c ∈ blanks, Text.isBlank c = true)
    (position : ℕ) (tokens : List Token) :
    run ⟨position, tokens, .bare []⟩ blanks =
      .ok ⟨position + blanks.length, tokens, .bare []⟩ := by
  induction blanks generalizing position with
  | nil => rfl
  | cons c blanks ih =>
    rw [List.forall_mem_cons] at hblanks
    rw [(Step.blank hblanks.1).run_cons, flushBare, List.isEmpty_nil, if_pos rfl, ih hblanks.2,
      List.length_cons, Nat.add_right_comm, Nat.add_assoc]

/-- A blank before the end of a text makes no difference there. -/
theorem exists_step_blank (scanner : Scanner) {c : Char} (hblank : Text.isBlank c = true) :
    ∃ scanner', Step scanner c scanner' ∧ scanner'.finish = scanner.finish := by
  obtain ⟨hquote, hopen, hclose⟩ := ne_of_isBlank hblank
  obtain ⟨position, tokens, mode⟩ := scanner
  -- Outside it ends a word that the end would have ended; inside it is collected, and what is left
  -- open stays open.
  cases mode with
  | bare pending => exact ⟨_, .blank hblank, rfl⟩
  | quoted opening pending => exact ⟨_, .literal hquote, rfl⟩
  | grouped opening inner pending => exact ⟨_, .inside hopen hclose, rfl⟩

/-- Blanks before the end of a text make no difference there. -/
theorem run_blanks_finish {blanks : List Char} (hblanks : ∀ c ∈ blanks, Text.isBlank c = true)
    (scanner : Scanner) : (scanner.run blanks).bind finish = scanner.finish := by
  induction blanks generalizing scanner with
  | nil => rfl
  | cons c blanks ih =>
    rw [List.forall_mem_cons] at hblanks
    obtain ⟨next, hnext, hfinish⟩ := exists_step_blank scanner hblanks.1
    rw [hnext.run_cons, ih hblanks.2, hfinish]

end Scanner

namespace Token

/-- Blanks at the end of a text make no difference to its tokens. -/
theorem scan_append_blanks {blanks : List Char} (hblanks : ∀ c ∈ blanks, Text.isBlank c = true)
    (text : List Char) : Token.scan (text ++ blanks) = Token.scan text := by
  rw [Token.scan, Token.scan, Scanner.run_append]
  cases Scanner.start.run text with
  | error error => rfl
  | ok scanner => exact Scanner.run_blanks_finish hblanks scanner

/-- Blanks in front of a text move its errors to the right and nothing else. -/
theorem scan_blanks_append {blanks : List Char} (hblanks : ∀ c ∈ blanks, Text.isBlank c = true)
    (text : List Char) :
    Token.scan (blanks ++ text) = (Token.scan text).mapError (·.shift blanks.length) := by
  rw [Token.scan, Scanner.run_append, Scanner.start, Scanner.run_blanks hblanks, Except.bind,
    Scanner.run_finish_after, Nat.zero_add]
  cases Token.scan text <;> rfl

/-- After a text whose delimiters match and a blank, a text has the tokens that it has on its own,
and the same errors further right. -/
theorem scan_append_blank {first : List Char} {found : List Token} {c : Char}
    (hfirst : Token.scan first = .ok found) (hblank : Text.isBlank c = true)
    (second : List Char) :
    Token.scan (first ++ c :: second) =
      ((Token.scan second).map (found ++ ·)).mapError (·.shift (first.length + 1)) := by
  -- The scanner is outside of all delimiters at the blank, which ends a word as the end would.
  obtain ⟨tokens, pending, hrun⟩ :=
    Scanner.passes_of_delimited (scan_ok_iff.1 ⟨found, hfirst⟩) 0 [] []
  rw [Nat.zero_add] at hrun
  have hfound : (Scanner.flushBare tokens pending).reverse = found := by
    rw [Token.scan, Scanner.start, hrun] at hfirst
    exact Except.ok.inj hfirst
  rw [Token.scan, Scanner.run_append, Scanner.start, hrun, Except.bind,
    (Scanner.Step.blank hblank).run_cons, Scanner.run_finish_after, hfound]

/-- A text has the tokens of its trimmed form, and the same errors further right. -/
theorem scan_trim (text : List Char) :
    Token.scan text = (Token.scan (Text.trim text)).mapError (·.shift (Text.indent text)) := by
  obtain ⟨before, after, hindent, hblanks, htext⟩ := Text.eq_blanks_append_trim text
  rw [List.forall_mem_append] at hblanks
  calc Token.scan text
      = Token.scan (before ++ (Text.trim text ++ after)) := by rw [← htext]
    _ = (Token.scan (Text.trim text ++ after)).mapError (·.shift before.length) :=
        scan_blanks_append hblanks.1 _
    _ = (Token.scan (Text.trim text)).mapError (·.shift (Text.indent text)) := by
        rw [scan_append_blanks hblanks.2, hindent]

/-- After a parenthesis that closes nothing the scanner does not read on. -/
theorem scan_append_unmatched {first : List Char} {offset : ℕ}
    (h : Token.scan first = .error ⟨.unmatchedClose, offset⟩) (second : List Char) :
    Token.scan (first ++ second) = .error ⟨.unmatchedClose, offset⟩ :=
  scan_of_blames ((scan_error_iff.1 h).append_right second)

end Token

namespace Instruction

/-- Two texts with a blank between them are cut into tokens one after the other. If the delimiters
of the first match, its tokens come first, and an error of the second is the same error as many
characters further right as come before the second text. If a parenthesis of the first closes
nothing, it is to blame whatever the second text is. -/
theorem tokens_append_blank {c : Char} (hblank : Text.isBlank c = true) (first second : String) :
    let text := first ++ String.singleton c ++ second
    (∀ found, tokens first = .ok found →
        (∀ found', tokens second = .ok found' → tokens text = .ok (found ++ found')) ∧
          ∀ failure, tokens second = .error failure → ∃ blamed : ScanError,
            failure = ⟨second, .unbalanced blamed⟩ ∧
              tokens text = .error
                ⟨text, .unbalanced ⟨blamed.imbalance, first.length + 1 + blamed.offset⟩⟩) ∧
      ∀ offset, tokens first = .error ⟨first, .unbalanced ⟨.unmatchedClose, offset⟩⟩ →
        tokens text = .error ⟨text, .unbalanced ⟨.unmatchedClose, offset⟩⟩ := by
  intro text
  have htext : text.toList = first.toList ++ c :: second.toList := by
    simp only [text, String.toList_append, String.toList_singleton, List.append_assoc,
      List.singleton_append]
  refine ⟨fun found hfirst => ?_, fun offset hfirst => ?_⟩
  · -- What becomes of the second text is told by one equation, whether it has tokens or not.
    have hscan := Token.scan_append_blank (tokens_eq_ok_iff.1 hfirst) hblank second.toList
    rw [← htext] at hscan
    refine ⟨fun found' hsecond => ?_, fun failure hsecond => ?_⟩
    · rw [tokens_eq_ok_iff] at hsecond
      rw [tokens_eq_ok_iff, hscan, hsecond]
      rfl
    · obtain ⟨blamed, rfl, herror⟩ := tokens_eq_error_iff.1 hsecond
      refine ⟨blamed, rfl, tokens_eq_error_iff.2 ⟨_, rfl, ?_⟩⟩
      rw [hscan, herror, String.length_toList, Nat.add_comm _ blamed.offset]
      rfl
  · obtain ⟨blamed, herror, hscan⟩ := tokens_eq_error_iff.1 hfirst
    cases herror
    refine tokens_eq_error_iff.2 ⟨_, rfl, ?_⟩
    rw [htext]
    exact Token.scan_append_unmatched hscan _

/-- A group that the first text has closed is not taken for the one that the second leaves open; and
nothing makes up for a parenthesis that closes nothing. -/
theorem tokens_append_blank_groups :
    tokens "inc (x)\u3000\"Élan\" all" =
        .ok [.bare "inc", .group ⟨["x"]⟩, .quoted "Élan", .bare "all"] ∧
      tokens "inc (x)\u3000\"Élan\"(y" =
        .error ⟨"inc (x)\u3000\"Élan\"(y", .unbalanced ⟨.unclosedGroup, 14⟩⟩ ∧
      tokens "a) (b)" = .error ⟨"a) (b)", .unbalanced ⟨.unmatchedClose, 1⟩⟩ := by
  have hinc : tokens "inc (x)" = .ok [.bare "inc", .group ⟨["x"]⟩] := by decide
  obtain ⟨hok, -⟩ := (tokens_append_blank (c := '\u3000') (by decide) "inc (x)" "\"Élan\" all").1
    _ hinc
  obtain ⟨-, herror⟩ := (tokens_append_blank (c := '\u3000') (by decide) "inc (x)" "\"Élan\"(y").1
    _ hinc
  obtain ⟨blamed, hblamed, hopen⟩ := herror
    ⟨"\"Élan\"(y", .unbalanced ⟨.unclosedGroup, 6⟩⟩ (by decide)
  cases hblamed
  exact ⟨hok [.quoted "Élan", .bare "all"] (by decide), hopen,
    (tokens_append_blank (c := ' ') (by decide) "a)" "(b)").2 1 (by decide)⟩

end Instruction

end CardEffects
