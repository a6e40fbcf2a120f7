import CardEffects.Proofs.Text.Blank
import CardEffects.Proofs.Token.Acceptance
import CardEffects.Proofs.Token.Span

/-!
# The tokens of spans

The tokens of a text are those of its spans, each read for itself. The scanner knows no spans: it
holds a word back until it comes to a blank, to a delimiter or to the end, and a word that it holds
back at the end of a run is ended by the span after it.

* `Span.tokens`: the tokens of a span.
* `Scanner.run_plain`, `Scanner.run_span`: what the scanner does on a run, and on any span.
* `Scanner.run_spans`: what it does on spans that follow each other.
* `Instruction.tokens_eq_flatMap_spans`: the tokens of a text.
-/

namespace CardEffects

/-- The tokens of a span: the words of a run; the inside of a literal without the blanks at its
ends, unless that is nothing; and the words of the inside of a group, where a parenthesis is as good
as a blank. -/
def Span.tokens : Span → List Token
  | .run text => (Text.words text).map fun word => .bare (String.ofList word)
  | .literal inside =>
    if Text.trim inside = [] then [] else [.quoted (String.ofList (Text.trim inside))]
  | .group inside =>
    [.group ⟨(Text.words (Scanner.blankParentheses inside)).map String.ofList⟩]

namespace Scanner

variable {position : ℕ} {tokens : List Token} {pending : List Char}

/-- What is pending at the end of a word are the tokens of a run. -/
theorem flushBare_eq_tokens (h : ∀ c ∈ pending, Text.isBlank c = false) :
    flushBare tokens pending = (Span.run pending.reverse).tokens.reverse ++ tokens := by
  cases pending with
  | nil => rfl
  | cons c pending =>
    have hwords : Text.words (c :: pending).reverse = [(c :: pending).reverse] :=
      Text.words_of_forall (by simp) fun c hc => h c (List.mem_reverse.1 hc)
    rw [Span.tokens, hwords]
    rfl

/-- Behind a closing quote there are the tokens of the literal's span. -/
theorem flushQuoted_eq_tokens (inside : List Char) :
    flushQuoted tokens inside.reverse = (Span.literal inside).tokens.reverse ++ tokens := by
  rw [flushQuoted, Span.tokens, List.reverse_reverse]
  cases Text.trim inside <;> rfl

/-- Behind a closing parenthesis there is the token of the group's span. -/
theorem flushGroup_eq_tokens (inside : List Char) :
    flushGroup tokens (blankParentheses inside).reverse =
      (Span.group inside).tokens.reverse ++ tokens := by
  rw [flushGroup, Span.tokens, List.reverse_reverse]
  rfl

/-- On characters that are no delimiters the scanner finds the words, of which the last may still be
pending. -/
theorem run_plain {text : List Char} (htext : ∀ c ∈ text, Span.IsPlain c)
    (hpending : ∀ c ∈ pending, Text.isBlank c = false) :
    ∃ tokens' pending', run ⟨position, tokens, .bare pending⟩ text =
        .ok ⟨position + text.length, tokens', .bare pending'⟩ ∧
      flushBare tokens' pending' =
        (Span.run (pending.reverse ++ text)).tokens.reverse ++ tokens := by
  -- What is pending counts as the beginning of the run, so that a blank splits the run in two.
  induction text generalizing position tokens pending with
  | nil => exact ⟨tokens, pending, rfl, by rw [List.append_nil, flushBare_eq_tokens hpending]⟩
  | cons c text ih =>
    rw [List.forall_mem_cons] at htext
    obtain ⟨⟨hquote, hopen, hclose⟩, htext⟩ := htext
    have hposition : position + (c :: text).length = position + 1 + text.length := by
      rw [List.length_cons]
      omega
    cases hblank : Text.isBlank c with
    | true =>
      obtain ⟨tokens', pending', hrun, hflush⟩ := ih htext (List.forall_mem_nil _)
      refine ⟨tokens', pending', ?_, ?_⟩
      · rw [(Step.blank hblank).run_cons, hrun, hposition]
      · rw [hflush, flushBare_eq_tokens hpending]
        simp [Span.tokens, Text.words_append_blank hblank]
    | false =>
      have hpending' : ∀ d ∈ c :: pending, Text.isBlank d = false :=
        List.forall_mem_cons.2 ⟨hblank, hpending⟩
      obtain ⟨tokens', pending', hrun, hflush⟩ := ih htext hpending'
      refine ⟨tokens', pending', ?_, ?_⟩
      · rw [(Step.word hquote hopen hclose hblank).run_cons, hrun, hposition]
      · simpa using hflush

/-- On a span the scanner finds the tokens of the span, after one that may be pending. If the span
is a run nothing must be pending, and if it is none nothing is pending afterwards. -/
theorem run_span {span : Span} (h : span.WellFormed) (hpending : span.IsRun → pending = []) :
    ∃ tokens' pending', run ⟨position, tokens, .bare pending⟩ span.text =
        .ok ⟨position + span.text.length, tokens', .bare pending'⟩ ∧
      flushBare tokens' pending' = span.tokens.reverse ++ flushBare tokens pending ∧
      (pending' = [] ∨ span.IsRun) := by
  cases span with
  | run text =>
    rw [hpending trivial]
    obtain ⟨tokens', pending', hrun, hflush⟩ := run_plain h.2 (List.forall_mem_nil _)
    exact ⟨tokens', pending', hrun, hflush, .inr trivial⟩
  | literal inside =>
    refine ⟨flushQuoted (flushBare tokens pending) inside.reverse, [], ?_,
      flushQuoted_eq_tokens inside, .inl rfl⟩
    rw [Span.text, run_literal h]
    simp [Nat.add_assoc]
  | group inside =>
    refine ⟨flushGroup (flushBare tokens pending) (blankParentheses inside).reverse, [], ?_,
      flushGroup_eq_tokens inside, .inl rfl⟩
    rw [Span.text, run_group h]
    simp [Nat.add_assoc]

/-- On spans that follow each other the scanner finds the tokens of all of them. -/
theorem run_spans {spans : List Span} {text : List Char} (h : Span.Divides spans text)
    (hpending : ∀ next ∈ spans.head?, next.IsRun → pending = []) :
    (run ⟨position, tokens, .bare pending⟩ text).bind finish =
      .ok ((flushBare tokens pending).reverse ++ spans.flatMap Span.tokens) := by
  induction spans generalizing text position tokens pending with
  | nil =>
    rw [Span.divides_nil_iff.1 h]
    simp [Except.bind, finish]
  | cons span spans ih =>
    obtain ⟨hspan, hnext, rest, rfl, hrest⟩ := Span.divides_cons_iff.1 h
    obtain ⟨tokens', pending', hrun, hflush, hafter⟩ := run_span hspan (hpending span rfl)
    -- Something is pending only after a run, and after a run there is none.
    have hpending' : ∀ next ∈ spans.head?, next.IsRun → pending' = [] :=
      fun next hhead hnextRun => hafter.resolve_right fun hrun => hnext next hhead hrun hnextRun
    rw [run_append, hrun, Except.bind, ih hrest hpending', hflush]
    simp

end Scanner

/-- The tokens of a text that is divided into spans. -/
theorem Span.Divides.scan_eq {spans : List Span} {text : List Char} (h : Divides spans text) :
    Token.scan text = .ok (spans.flatMap Span.tokens) :=
  Scanner.run_spans h fun _ _ _ => rfl

namespace Instruction

/-- A text has tokens if and only if it is divided into spans. It is then divided in one way only,
and its tokens are those of the spans, one after the other. -/
theorem tokens_eq_flatMap_spans (text : String) :
    ((∃ found, tokens text = .ok found) ↔ ∃ spans, Span.Divides spans text.toList) ∧
    (∀ spans spans', Span.Divides spans text.toList → Span.Divides spans' text.toList →
      spans = spans') ∧
    ∀ spans, Span.Divides spans text.toList → tokens text = .ok (spans.flatMap Span.tokens) := by
  have htokens {spans : List Span} (h : Span.Divides spans text.toList) :
      tokens text = .ok (spans.flatMap Span.tokens) :=
    tokens_eq_ok_iff.2 h.scan_eq
  refine ⟨⟨?_, ?_⟩, fun spans spans' h h' => h.eq h', fun spans h => htokens h⟩
  · rintro ⟨found, hfound⟩
    exact Span.exists_divides (Token.scan_ok_iff.1 ⟨found, tokens_eq_ok_iff.1 hfound⟩)
  · rintro ⟨spans, hspans⟩
    exact ⟨spans.flatMap Span.tokens, htokens hspans⟩

/-- Spans without blanks between them, one of them a literal of blanks, and a group with a quote and
with parentheses inside. -/
theorem tokens_eq_flatMap_spans_adjacent :
    let text := "draw\" two \"\"\u3000\"(x(y\"))of all"
    let spans : List Span := [.run "draw".toList, .literal " two ".toList, .literal "\u3000".toList,
      .group "x(y\")".toList, .run "of all".toList]
    Span.Divides spans text.toList ∧ tokens text = .ok
      [.bare "draw", .quoted "two", .group ⟨["x", "y\""]⟩, .bare "of", .bare "all"] := by
  intro text spans
  have hinner : Nested "y\"".toList := nested_of_forall_ne (by decide)
  have hinside : Nested "x(y\")".toList := .plain (by decide) (by decide) (.group hinner .nil)
  have hdivides : Span.Divides spans text.toList := by
    refine ⟨?wellFormed, by decide, ?maximal⟩
    case wellFormed =>
      have htwo : '"' ∉ " two ".toList := by decide
      have hblank : '"' ∉ "\u3000".toList := by decide
      simp only [spans, List.forall_mem_cons]
      exact ⟨⟨by decide, by decide⟩, htwo, hblank, hinside, ⟨by decide, by decide⟩,
        List.forall_mem_nil _⟩
    case maximal => simp [spans, Span.IsRun]
  obtain ⟨-, -, htokens⟩ := tokens_eq_flatMap_spans text
  refine ⟨hdivides, (htokens spans hdivides).trans ?_⟩
  decide

end Instruction

end CardEffects
