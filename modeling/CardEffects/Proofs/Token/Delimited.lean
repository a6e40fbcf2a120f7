import CardEffects.Token.Scanner
import Mathlib.Data.List.Basic
import Mathlib.Data.Nat.Init

/-!
# The delimiter grammar

Which texts have matching delimiters, said by a grammar and without a scanner. Between delimiters a
text consists of plain characters, quoted literals and groups. Parentheses are ordinary inside
quotes, and quotes are ordinary inside a group, where only parentheses have to match.

* `Nested`: the texts that can stand between the parentheses of a group.
* `Delimited`: the texts whose delimiters match.
* `ScanError.Blames`: an error names the delimiter that no continuation of the text before it could
  have matched.
* `delimited_or_blames`: a text whose delimiters do not match has a delimiter to blame.
-/

namespace CardEffects

/-- The texts in which every parenthesis is matched, quotes being ordinary characters. -/
inductive Nested : List Char → Prop
  | nil : Nested []
  | plain {c : Char} {text : List Char} :
      c ≠ '(' → c ≠ ')' → Nested text → Nested (c :: text)
  | group {inner text : List Char} :
      Nested inner → Nested text → Nested ('(' :: (inner ++ ')' :: text))

/-- The texts in which every quote outside a group is matched, and every parenthesis outside
quotes. -/
inductive Delimited : List Char → Prop
  | nil : Delimited []
  | plain {c : Char} {text : List Char} :
      c ≠ '"' → c ≠ '(' → c ≠ ')' → Delimited text → Delimited (c :: text)
  | quoted {literal text : List Char} :
      '"' ∉ literal → Delimited text → Delimited ('"' :: (literal ++ '"' :: text))
  | group {inner text : List Char} :
      Nested inner → Delimited text → Delimited ('(' :: (inner ++ ')' :: text))

/-- A text without parentheses is nested. -/
theorem nested_of_forall_ne {text : List Char} (h : ∀ c ∈ text, c ≠ '(' ∧ c ≠ ')') :
    Nested text := by
  induction text with
  | nil => exact .nil
  | cons c text ih =>
    rw [List.forall_mem_cons] at h
    exact .plain h.1.1 h.1.2 (ih h.2)

/-- Texts whose delimiters match can be written one after the other. -/
theorem Delimited.append {first second : List Char} (hfirst : Delimited first)
    (hsecond : Delimited second) : Delimited (first ++ second) := by
  induction hfirst with
  | nil => exact hsecond
  | plain hquote hopen hclose _ ih => exact .plain hquote hopen hclose ih
  | quoted hliteral _ ih => simpa using Delimited.quoted hliteral ih
  | group hinner _ ih => simpa using Delimited.group hinner ih

/-- A group ends in one place only. -/
theorem Nested.append_closing_inj {inner inner' rest rest' : List Char} (h : Nested inner)
    (h' : Nested inner') (heq : inner ++ ')' :: rest = inner' ++ ')' :: rest') :
    inner = inner' ∧ rest = rest' := by
  -- The first characters decide how both texts begin; a group in one is there in the other too.
  induction h generalizing inner' rest rest' with
  | nil =>
    cases h' with
    | nil => exact ⟨rfl, List.tail_eq_of_cons_eq heq⟩
    | plain _ hclose _ => exact absurd (List.head_eq_of_cons_eq heq).symm hclose
    | group => exact absurd (List.head_eq_of_cons_eq heq) (by decide)
  | plain hopen hclose _ ih =>
    cases h' with
    | nil => exact absurd (List.head_eq_of_cons_eq heq) hclose
    | plain _ _ htext' =>
      obtain ⟨rfl, hrest⟩ := List.cons.inj heq
      obtain ⟨rfl, rfl⟩ := ih htext' hrest
      exact ⟨rfl, rfl⟩
    | group => exact absurd (List.head_eq_of_cons_eq heq) hopen
  | group _ _ ihInner ihText =>
    cases h' with
    | nil => exact absurd (List.head_eq_of_cons_eq heq) (by decide)
    | plain hopen _ _ => exact absurd (List.head_eq_of_cons_eq heq).symm hopen
    | group hinner' htext' =>
      simp only [List.cons_append, List.append_assoc, List.cons.injEq, true_and] at heq
      obtain ⟨rfl, hrest⟩ := ihInner hinner' heq
      obtain ⟨rfl, rfl⟩ := ihText htext' hrest
      exact ⟨rfl, rfl⟩

/-! ## Parentheses closed from inside

Read from inside of `depth + 1` open parentheses, a text closes all but one of them if it is nested
texts with `depth` closing parentheses between them. -/

/-- The texts that close `depth` parentheses opened before them, and match their own. -/
def Closes : ℕ → List Char → Prop
  | 0, text => Nested text
  | depth + 1, text => ∃ inner rest, Nested inner ∧ Closes depth rest ∧ text = inner ++ ')' :: rest

namespace Closes

variable {depth : ℕ} {text : List Char}

theorem nil : Closes 0 [] := Nested.nil

theorem plain {c : Char} (hopen : c ≠ '(') (hclose : c ≠ ')') (h : Closes depth text) :
    Closes depth (c :: text) := by
  cases depth with
  | zero => exact Nested.plain hopen hclose h
  | succ depth =>
    obtain ⟨inner, rest, hinner, hrest, rfl⟩ := h
    exact ⟨c :: inner, rest, .plain hopen hclose hinner, hrest, rfl⟩

/-- An opening parenthesis takes up the first one that is closed. -/
theorem opening (h : Closes (depth + 1) text) : Closes depth ('(' :: text) := by
  obtain ⟨inner, rest, hinner, hrest, rfl⟩ := h
  cases depth with
  | zero => exact Nested.group hinner hrest
  | succ depth =>
    -- The parenthesis closed first now closes the new one, so the next one ends the first part.
    obtain ⟨next, last, hnext, hlast, rfl⟩ := hrest
    exact ⟨'(' :: (inner ++ ')' :: next), last, .group hinner hnext, hlast, by simp⟩

/-- A closing parenthesis closes one more. -/
theorem closing (h : Closes depth text) : Closes (depth + 1) (')' :: text) :=
  ⟨[], text, .nil, h, rfl⟩

end Closes

/-! ## The delimiter to blame -/

/-- The texts that begin with a delimiter that is out of balance. -/
def Imbalance.Begins : Imbalance → List Char → Prop
  | unmatchedClose, text => text.head? = some ')'
  | unterminatedQuote, text => text.head? = some '"' ∧ '"' ∉ text.tail
  | unclosedGroup, text =>
    text.head? = some '(' ∧ ∀ inner, Nested inner → ¬ '(' :: (inner ++ [')']) <+: text

/-- The delimiter that is out of balance. -/
def Imbalance.delimiter : Imbalance → Char
  | unclosedGroup => '('
  | unterminatedQuote => '"'
  | unmatchedClose => ')'

/-- A delimiter out of balance is the character that is blamed. -/
theorem Imbalance.Begins.head?_eq {imbalance : Imbalance} {text : List Char}
    (h : imbalance.Begins text) : text.head? = some imbalance.delimiter := by
  cases imbalance with
  | unclosedGroup => exact h.1
  | unterminatedQuote => exact h.1
  | unmatchedClose => exact h

/-- The error names a delimiter of the text, all delimiters before it match, and from there on the
text is out of balance in the way that the error says. -/
def ScanError.Blames (error : ScanError) (text : List Char) : Prop :=
  error.offset < text.length ∧ Delimited (text.take error.offset) ∧
    error.imbalance.Begins (text.drop error.offset)

/-- The delimiter to blame stands at the offset of the error. -/
theorem ScanError.Blames.getElem?_eq {error : ScanError} {text : List Char}
    (h : error.Blames text) : text[error.offset]? = some error.imbalance.delimiter := by
  rw [← List.head?_drop]
  exact h.2.2.head?_eq

/-- A delimiter is to blame also after more text in which all delimiters match. -/
theorem ScanError.Blames.append {error : ScanError} {text before : List Char}
    (h : error.Blames text) (hbefore : Delimited before) :
    (error.shift before.length).Blames (before ++ text) := by
  obtain ⟨hlt, hdelimited, hbegins⟩ := h
  have hoffset : (error.shift before.length).offset = before.length + error.offset :=
    Nat.add_comm _ _
  rw [Blames, hoffset, List.take_length_add_append, List.drop_length_add_append,
    List.length_append]
  exact ⟨by omega, hbefore.append hdelimited, hbegins⟩

/-- A parenthesis that closes nothing is to blame whatever comes after it. -/
theorem ScanError.Blames.append_right {offset : ℕ} {text : List Char}
    (h : ScanError.Blames ⟨.unmatchedClose, offset⟩ text) (after : List Char) :
    ScanError.Blames ⟨.unmatchedClose, offset⟩ (text ++ after) := by
  obtain ⟨hlt, hdelimited, hbegins⟩ := h
  have hle : offset ≤ text.length := Nat.le_of_lt hlt
  obtain ⟨rest, hrest⟩ := List.head?_eq_some_iff.1 hbegins
  refine ⟨?_, ?_, ?_⟩
  · rw [List.length_append]
    exact Nat.lt_add_right after.length hlt
  · rw [List.take_append_of_le_length hle]
    exact hdelimited
  · show ((text ++ after).drop offset).head? = some ')'
    rw [List.drop_append_of_le_length hle, hrest, List.cons_append, List.head?_cons]

/-- A delimiter at the start of a text is to blame if the text is out of balance from there. -/
theorem Imbalance.Begins.blames {imbalance : Imbalance} {text : List Char}
    (h : imbalance.Begins text) : ScanError.Blames ⟨imbalance, 0⟩ text := by
  refine ⟨?_, by simpa using Delimited.nil, by simpa using h⟩
  cases text with
  | nil => cases imbalance <;> simp [Begins] at h
  | cons c text => simp

private theorem delimited_or_blames_append {before text : List Char} (hbefore : Delimited before)
    (h : Delimited text ∨ ∃ error : ScanError, error.Blames text) :
    Delimited (before ++ text) ∨ ∃ error : ScanError, error.Blames (before ++ text) :=
  h.imp hbefore.append fun ⟨error, hblames⟩ => ⟨error.shift before.length, hblames.append hbefore⟩

/-- In every text all delimiters match, or there is one to blame. -/
theorem delimited_or_blames (text : List Char) :
    Delimited text ∨ ∃ error : ScanError, error.Blames text := by
  -- On the length of the text, because a literal or a group is passed over as a whole.
  induction hlength : text.length using Nat.strong_induction_on generalizing text with
  | _ length ih =>
    cases text with
    | nil => exact .inl .nil
    | cons c text =>
      have hrest (rest : List Char) (hlt : rest.length ≤ text.length) :
          Delimited rest ∨ ∃ error : ScanError, error.Blames rest :=
        ih rest.length (by rw [← hlength, List.length_cons]; omega) rest rfl
      by_cases hquote : c = '"'
      · subst hquote
        -- The literal ends at the next quote, wherever that is, or else it does not end at all.
        by_cases hmem : '"' ∈ text
        · obtain ⟨literal, rest, rfl, hliteral⟩ := List.eq_append_cons_of_mem hmem
          simpa using delimited_or_blames_append (.quoted hliteral .nil)
            (hrest rest (by simp; omega))
        · exact .inr ⟨⟨.unterminatedQuote, 0⟩, Imbalance.Begins.blames ⟨rfl, hmem⟩⟩
      by_cases hopen : c = '('
      · subst hopen
        -- No depth is counted here: either some text is the whole of the group, or none is.
        by_cases hclosed : ∃ inner, Nested inner ∧ '(' :: (inner ++ [')']) <+: '(' :: text
        · obtain ⟨inner, hinner, rest, heq⟩ := hclosed
          rw [← heq]
          refine delimited_or_blames_append (.group hinner .nil) (hrest rest ?_)
          have := congrArg List.length heq
          simp only [List.length_append, List.length_cons] at this
          omega
        · refine .inr ⟨⟨.unclosedGroup, 0⟩, Imbalance.Begins.blames ⟨rfl, ?_⟩⟩
          exact fun inner hinner hprefix => hclosed ⟨inner, hinner, hprefix⟩
      by_cases hclose : c = ')'
      · exact .inr ⟨⟨.unmatchedClose, 0⟩, Imbalance.Begins.blames (by rw [hclose]; rfl)⟩
      · have hplain : Delimited [c] := .plain hquote hopen hclose .nil
        exact delimited_or_blames_append hplain (hrest text (Nat.le_refl _))

end CardEffects
