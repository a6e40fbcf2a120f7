import CardEffects.Proofs.Token.Delimited
import Mathlib.Data.List.Chain
import Mathlib.Data.List.TakeWhile

/-!
# The spans of a text

A text whose delimiters match is a sequence of spans: literals and groups from one delimiter to the
other, and runs of the characters between them. Neither blanks nor words matter here. A run goes on
for as long as it can, so that a text is divided in one way only.

* `Span.Divides`: a list of spans is what a text consists of.
* `Span.exists_divides`: every text whose delimiters match is divided into spans.
* `Span.Divides.eq`: it is divided in one way only.
-/

namespace CardEffects

/-- A piece of a text that begins and ends outside of all delimiters. -/
inductive Span
  /-- Characters between delimiters. -/
  | run (text : List Char)
  /-- A pair of quotes and what stands inside. -/
  | literal (inside : List Char)
  /-- A pair of parentheses and what stands inside. -/
  | group (inside : List Char)
deriving DecidableEq, Repr

namespace Span

/-- A character that is no delimiter. -/
def IsPlain (c : Char) : Prop :=
  c ≠ '"' ∧ c ≠ '(' ∧ c ≠ ')'

instance : DecidablePred IsPlain := fun _ => inferInstanceAs (Decidable (_ ∧ _))

/-- The characters of a span, its delimiters included. -/
def text : Span → List Char
  | run text => text
  | literal inside => '"' :: (inside ++ ['"'])
  | group inside => '(' :: (inside ++ [')'])

/-- Whether a span stands between delimiters. -/
def IsRun : Span → Prop
  | run _ => True
  | literal _ | group _ => False

/-- A run has characters, but no delimiters; a literal goes to the next quote; in a group every
parenthesis is matched. -/
def WellFormed : Span → Prop
  | run text => text ≠ [] ∧ ∀ c ∈ text, IsPlain c
  | literal inside => '"' ∉ inside
  | group inside => Nested inside

/-- The spans are what the text consists of, and no run is shorter than it could be. -/
structure Divides (spans : List Span) (text : List Char) : Prop where
  /-- The spans are well-formed. -/
  wellFormed : ∀ span ∈ spans, span.WellFormed
  /-- One after the other the spans are the text. -/
  flatMap_text : spans.flatMap Span.text = text
  /-- No run goes on in another run. -/
  maximal : spans.IsChain fun span next => span.IsRun → ¬ next.IsRun

variable {span span' : Span} {spans spans' : List Span} {text rest rest' : List Char}

theorem divides_nil_iff : Divides [] text ↔ text = [] :=
  ⟨fun h => h.flatMap_text.symm, fun h => ⟨List.forall_mem_nil _, h.symm, .nil⟩⟩

/-- A text is divided by its first span and by what divides the rest. -/
theorem divides_cons_iff : Divides (span :: spans) text ↔ span.WellFormed ∧
    (∀ next ∈ spans.head?, span.IsRun → ¬ next.IsRun) ∧
      ∃ rest, text = span.text ++ rest ∧ Divides spans rest := by
  constructor
  · rintro ⟨hwellFormed, rfl, hmaximal⟩
    rw [List.forall_mem_cons] at hwellFormed
    rw [List.isChain_cons] at hmaximal
    exact ⟨hwellFormed.1, hmaximal.1, _, List.flatMap_cons, hwellFormed.2, rfl, hmaximal.2⟩
  · rintro ⟨hspan, hnext, rest, rfl, hwellFormed, rfl, hmaximal⟩
    exact ⟨List.forall_mem_cons.2 ⟨hspan, hwellFormed⟩, List.flatMap_cons,
      List.isChain_cons.2 ⟨hnext, hmaximal⟩⟩

/-! ## Existence -/

/-- A literal or a group can stand in front of any spans. -/
theorem Divides.cons (h : Divides spans rest) (hspan : span.WellFormed) (hrun : ¬ span.IsRun) :
    Divides (span :: spans) (span.text ++ rest) :=
  divides_cons_iff.2 ⟨hspan, fun _ _ h => absurd h hrun, rest, rfl, h⟩

/-- A character that is no delimiter joins the run at the start of a text, or is a run of its own if
there is none. -/
theorem Divides.exists_cons {c : Char} (h : Divides spans rest) (hc : IsPlain c) :
    ∃ spans', Divides spans' (c :: rest) := by
  -- Whether the text begins with a run is seen from the first span.
  by_cases hrun : ∃ text later, spans = run text :: later
  · obtain ⟨text, later, rfl⟩ := hrun
    obtain ⟨⟨-, hplain⟩, hnext, after, rfl, hlater⟩ := divides_cons_iff.1 h
    have hjoined : (run (c :: text)).WellFormed :=
      ⟨List.cons_ne_nil _ _, List.forall_mem_cons.2 ⟨hc, hplain⟩⟩
    exact ⟨run (c :: text) :: later, divides_cons_iff.2 ⟨hjoined, hnext, after, rfl, hlater⟩⟩
  · have halone : (run [c]).WellFormed := ⟨List.cons_ne_nil _ _, by simpa using hc⟩
    refine ⟨run [c] :: spans, divides_cons_iff.2 ⟨halone, ?_, rest, rfl, h⟩⟩
    rintro next hnext - hnextRun
    cases next with
    | run text => exact hrun ⟨text, spans.tail, List.eq_cons_of_mem_head? hnext⟩
    | literal | group => exact hnextRun

/-- A text whose delimiters match is divided into spans. -/
theorem exists_divides (h : Delimited text) : ∃ spans, Divides spans text := by
  induction h with
  | nil => exact ⟨[], divides_nil_iff.2 rfl⟩
  | plain hquote hopen hclose _ ih =>
    obtain ⟨spans, hspans⟩ := ih
    exact hspans.exists_cons ⟨hquote, hopen, hclose⟩
  | @quoted inside rest hinside _ ih =>
    obtain ⟨spans, hspans⟩ := ih
    have hliteral : (literal inside).WellFormed := hinside
    exact ⟨literal inside :: spans, by simpa [Span.text] using hspans.cons hliteral id⟩
  | @group inside rest hinside _ ih =>
    obtain ⟨spans, hspans⟩ := ih
    have hgroup : (group inside).WellFormed := hinside
    exact ⟨group inside :: spans, by simpa [Span.text] using hspans.cons hgroup id⟩

/-! ## Uniqueness -/

/-- If two texts begin with characters of a kind and go on with none of it, then these are the same
characters. -/
theorem append_inj_of_forall {P : Char → Prop} [DecidablePred P] {front front' : List Char}
    (hfront : ∀ c ∈ front, P c) (hfront' : ∀ c ∈ front', P c) (hrest : ∀ c ∈ rest.head?, ¬ P c)
    (hrest' : ∀ c ∈ rest'.head?, ¬ P c) (heq : front ++ rest = front' ++ rest') :
    front = front' ∧ rest = rest' := by
  have htake {front rest : List Char} (hfront : ∀ c ∈ front, P c)
      (hrest : ∀ c ∈ rest.head?, ¬ P c) : (front ++ rest).takeWhile (P ·) = front := by
    rw [List.takeWhile_append_of_pos (by simpa using hfront)]
    cases rest with
    | nil => simp
    | cons c rest => simpa using hrest c rfl
  have hsame : front = front' := by
    rw [← htake hfront hrest, heq, htake hfront' hrest']
  exact ⟨hsame, List.append_cancel_left (hsame ▸ heq)⟩

/-- The first character of a span tells whether it is a run. -/
theorem WellFormed.exists_cons (h : span.WellFormed) :
    ∃ c tail, span.text = c :: tail ∧ (IsPlain c ↔ span.IsRun) := by
  cases span with
  | run text =>
    obtain ⟨c, tail, rfl⟩ := List.exists_cons_of_ne_nil h.1
    exact ⟨c, tail, rfl, iff_of_true (h.2 c List.mem_cons_self) trivial⟩
  | literal inside => exact ⟨'"', inside ++ ['"'], rfl, iff_of_false (by decide) id⟩
  | group inside => exact ⟨'(', inside ++ [')'], rfl, iff_of_false (by decide) id⟩

/-- Texts that are the same begin with the same span, if it is not a run that goes on. -/
theorem text_append_inj (h : span.WellFormed) (h' : span'.WellFormed)
    (hend : span.IsRun → ∀ c ∈ rest.head?, ¬ IsPlain c)
    (hend' : span'.IsRun → ∀ c ∈ rest'.head?, ¬ IsPlain c)
    (heq : span.text ++ rest = span'.text ++ rest') : span = span' ∧ rest = rest' := by
  have hrun : span.IsRun ↔ span'.IsRun := by
    obtain ⟨c, tail, htext, hc⟩ := h.exists_cons
    obtain ⟨c', tail', htext', hc'⟩ := h'.exists_cons
    rw [htext, htext'] at heq
    rw [← hc, ← hc', List.head_eq_of_cons_eq heq]
  -- The first character tells which kind of span it is; where that ends depends on the kind.
  cases span with
  | run text =>
    cases span' with
    | run text' =>
      obtain ⟨rfl, hrest⟩ := append_inj_of_forall h.2 h'.2 (hend trivial) (hend' trivial) heq
      exact ⟨rfl, hrest⟩
    | literal | group => exact (hrun.1 trivial).elim
  | literal inside =>
    cases span' with
    | literal inside' =>
      have hquote {inside : List Char} (hinside : '"' ∉ inside) : ∀ c ∈ inside, c ≠ '"' :=
        fun c hc heq => hinside (heq ▸ hc)
      simp only [Span.text, List.cons_append, List.append_assoc, List.cons.injEq, true_and] at heq
      -- What goes on after the inside is the closing quote, which ends both.
      obtain ⟨rfl, hrest⟩ :=
        append_inj_of_forall (hquote h) (hquote h') (by simp) (by simp) heq
      exact ⟨rfl, List.tail_eq_of_cons_eq hrest⟩
    | run => exact (hrun.2 trivial).elim
    | group => exact absurd (List.head_eq_of_cons_eq heq) (by decide)
  | group inside =>
    cases span' with
    | group inside' =>
      simp only [Span.text, List.cons_append, List.append_assoc, List.cons.injEq, true_and] at heq
      obtain ⟨rfl, rfl⟩ := Nested.append_closing_inj h h' heq
      exact ⟨rfl, rfl⟩
    | run => exact (hrun.2 trivial).elim
    | literal => exact absurd (List.head_eq_of_cons_eq heq) (by decide)

/-- Where spans begin with no run, the text does not begin with a character of one. -/
theorem Divides.not_isPlain (h : Divides spans rest) (hrun : ∀ next ∈ spans.head?, ¬ next.IsRun) :
    ∀ c ∈ rest.head?, ¬ IsPlain c := by
  intro c hc
  cases spans with
  | nil =>
    rw [divides_nil_iff.1 h] at hc
    cases hc
  | cons next spans =>
    obtain ⟨hnext, -, after, rfl, -⟩ := divides_cons_iff.1 h
    obtain ⟨first, tail, htext, hfirst⟩ := hnext.exists_cons
    rw [htext] at hc
    cases hc
    exact fun hplain => hrun next rfl (hfirst.1 hplain)

theorem Divides.eq_nil (h : Divides spans []) : spans = [] := by
  cases spans with
  | nil => rfl
  | cons span spans =>
    obtain ⟨hspan, -, rest, htext, -⟩ := divides_cons_iff.1 h
    obtain ⟨c, tail, hcons, -⟩ := hspan.exists_cons
    rw [hcons] at htext
    cases htext

/-- A text is divided into spans in one way only. -/
theorem Divides.eq (h : Divides spans text) (h' : Divides spans' text) : spans = spans' := by
  induction spans generalizing text spans' with
  | nil =>
    rw [divides_nil_iff.1 h] at h'
    exact h'.eq_nil.symm
  | cons span spans ih =>
    cases spans' with
    | nil =>
      rw [divides_nil_iff.1 h'] at h
      exact h.eq_nil
    | cons span' spans' =>
      obtain ⟨hspan, hnext, rest, rfl, hrest⟩ := divides_cons_iff.1 h
      obtain ⟨hspan', hnext', rest', heq, hrest'⟩ := divides_cons_iff.1 h'
      -- A run ends where the next span begins, in both divisions.
      have hend (hrun : span.IsRun) : ∀ c ∈ rest.head?, ¬ IsPlain c :=
        hrest.not_isPlain fun next hhead => hnext next hhead hrun
      have hend' (hrun : span'.IsRun) : ∀ c ∈ rest'.head?, ¬ IsPlain c :=
        hrest'.not_isPlain fun next hhead => hnext' next hhead hrun
      obtain ⟨rfl, rfl⟩ := text_append_inj hspan hspan' hend hend' heq
      rw [ih hrest hrest']

end Span

end CardEffects
