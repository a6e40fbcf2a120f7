import CardEffects.Instruction.Parse
import CardEffects.Proofs.Token.Run

/-!
# Accepted texts

The scanner takes a text apart into tokens exactly if its delimiters match in the sense of the
delimiter grammar. If they do not, the error it gives is the one that names the delimiter to blame;
of several parentheses that are left open, that is the outermost one.

* `Token.scan_ok_iff`: the texts that are accepted.
* `Token.scan_error_iff`: the errors with which the others are refused.
* `Instruction.tokens_delimited`: both, for the tokens of an instruction.
-/

namespace CardEffects

/-- A text whose delimiters match is cut into tokens. -/
theorem Token.scan_of_delimited {text : List Char} (h : Delimited text) :
    ∃ tokens, Token.scan text = .ok tokens := by
  obtain ⟨tokens, pending, hrun⟩ := Scanner.passes_of_delimited h 0 [] []
  refine ⟨(Scanner.flushBare tokens pending).reverse, ?_⟩
  rw [Token.scan, Scanner.start, hrun]
  rfl

/-- A text with a delimiter to blame is refused, with that delimiter as the reason. -/
theorem Token.scan_of_blames {text : List Char} {error : ScanError} (h : error.Blames text) :
    Token.scan text = .error error := by
  obtain ⟨hlt, hbefore, hbegins⟩ := h
  -- The scanner is outside of all delimiters when it comes to the one to blame.
  obtain ⟨tokens, pending, hrun⟩ := Scanner.passes_of_delimited hbefore 0 [] []
  have hlength : 0 + (text.take error.offset).length = error.offset := by
    rw [List.length_take]
    omega
  rw [hlength] at hrun
  rw [Token.scan, ← List.take_append_drop error.offset text, Scanner.run_append, Scanner.start,
    hrun]
  exact Scanner.run_finish_of_begins hbegins

/-- The texts that are accepted are those whose delimiters match. -/
theorem Token.scan_ok_iff {text : List Char} :
    (∃ tokens, Token.scan text = .ok tokens) ↔ Delimited text := by
  refine ⟨fun ⟨tokens, hok⟩ => ?_, Token.scan_of_delimited⟩
  -- A text that does not match has a delimiter to blame, for which it would have been refused.
  refine (delimited_or_blames text).resolve_right fun ⟨error, hblames⟩ => ?_
  rw [Token.scan_of_blames hblames] at hok
  cases hok

/-- The reason for refusing a text is the delimiter to blame. -/
theorem Token.scan_error_iff {text : List Char} {error : ScanError} :
    Token.scan text = .error error ↔ error.Blames text := by
  refine ⟨fun herror => ?_, Token.scan_of_blames⟩
  -- Some delimiter is to blame, and the error that names it is the only one there can be.
  rcases delimited_or_blames text with hdelimited | ⟨blamed, hblames⟩
  · obtain ⟨tokens, hok⟩ := Token.scan_of_delimited hdelimited
    rw [hok] at herror
    cases herror
  · rw [Token.scan_of_blames hblames] at herror
    cases herror
    exact hblames

namespace Instruction

theorem tokens_eq_ok_iff {text : String} {found : List Token} :
    tokens text = .ok found ↔ Token.scan text.toList = .ok found := by
  cases hscan : Token.scan text.toList <;> simp [tokens, hscan, Except.mapError]

/-- The only errors of a text's tokens are those of the scanner, with the text as it was given. -/
theorem tokens_eq_error_iff {text : String} {error : Error} :
    tokens text = .error error ↔ ∃ blamed : ScanError,
      error = ⟨text, .unbalanced blamed⟩ ∧ Token.scan text.toList = .error blamed := by
  cases hscan : Token.scan text.toList <;> simp [tokens, hscan, Except.mapError, eq_comm]

/-- A text has tokens if and only if its delimiters match. If they do not, the error holds the text
and names the delimiter to blame: all delimiters before it match, and it is a parenthesis that
closes nothing, a quote after which there is no other, or a parenthesis that opens a group of which
no text from there on is the whole. -/
theorem tokens_delimited (text : String) :
    ((∃ found, tokens text = .ok found) ↔ Delimited text.toList) ∧
      ∀ error, tokens text = .error error ↔ ∃ blamed : ScanError,
        error = ⟨text, .unbalanced blamed⟩ ∧ blamed.Blames text.toList := by
  constructor
  · simp only [tokens_eq_ok_iff, Token.scan_ok_iff]
  · intro error
    simp only [tokens_eq_error_iff, Token.scan_error_iff]

/-- The outermost of two open parentheses is to blame. -/
example : tokens "inc (a (b" = .error ⟨"inc (a (b", .unbalanced ⟨.unclosedGroup, 4⟩⟩ := by
  decide

end Instruction

end CardEffects
