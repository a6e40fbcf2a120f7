import CardEffects.Text.Blank
import Mathlib.Data.List.DropRight
import Mathlib.Data.List.TakeWhile

/-!
# Trimmed texts and words

What `trim` and `words` leave of a text, and which texts they leave as they are.

* `trimmed_trim`, `trim_eq_self`: trimming gives a text without blanks at its ends, and such a text
  is its own trimmed form.
* `eq_blanks_append_trim`: only blanks are trimmed away.
* `Trims`, `trims_trim`: what trimming leaves, said by the text around it.
* `mem_words`, `words_intercalate`: words are non-empty and free of blanks, and any such words can
  be read back from a text in which they stand one space apart.
-/

namespace CardEffects.Text

/-! ## Trimmed texts -/

/-- A text without blanks at its ends. -/
def Trimmed (text : List Char) : Prop :=
  (∀ c ∈ text.head?, isBlank c = false) ∧ ∀ c ∈ text.getLast?, isBlank c = false

-- The two instances are named because one that goes through all characters could be found instead.
instance (text : List Char) : Decidable (Trimmed text) :=
  @instDecidableAnd _ _ (Option.decidableForallMem _) (Option.decidableForallMem _)

theorem trim_eq_rdropWhile (text : List Char) :
    trim text = (text.dropWhile isBlank).rdropWhile isBlank := rfl

/-- Trimming adds nothing to a text. -/
theorem mem_of_mem_trim {text : List Char} {c : Char} (h : c ∈ trim text) : c ∈ text := by
  rw [trim_eq_rdropWhile] at h
  exact (List.dropWhile_suffix _).subset ((List.rdropWhile_prefix _ _).subset h)

/-- A text has no blanks at its ends after trimming. -/
theorem trimmed_trim (text : List Char) : Trimmed (trim text) := by
  rw [trim_eq_rdropWhile]
  constructor
  · intro c hc
    -- Trimming at the end leaves the first character in place, if it leaves any.
    obtain ⟨rest, hrest⟩ := List.rdropWhile_prefix isBlank (text.dropWhile isBlank)
    have hhead : (text.dropWhile isBlank).head? = some c := by
      rw [← hrest, List.head?_append, Option.mem_def.1 hc, Option.some_or]
    have hnot := List.head?_dropWhile_not isBlank text
    rw [hhead] at hnot
    simpa using hnot
  · intro c hc
    obtain ⟨hne, rfl⟩ := List.mem_getLast?_eq_getLast hc
    simpa using List.rdropWhile_last_not isBlank _ hne

/-- A text without blanks at its ends is its own trimmed form. -/
theorem trim_eq_self {text : List Char} (h : Trimmed text) : trim text = text := by
  have hdrop : text.dropWhile isBlank = text := by
    cases text with
    | nil => rfl
    | cons c text => rw [List.dropWhile_cons_of_neg (by simp [h.1 c rfl])]
  rw [trim_eq_rdropWhile, hdrop, List.rdropWhile_eq_self_iff]
  intro hne
  simp [h.2 _ (List.getLast?_eq_some_getLast hne)]

/-- Only blanks are trimmed away: `indent text` of them in front, and some at the end. -/
theorem eq_blanks_append_trim (text : List Char) :
    ∃ before after, before.length = indent text ∧
      (∀ c ∈ before ++ after, isBlank c = true) ∧ text = before ++ (trim text ++ after) := by
  refine ⟨text.takeWhile isBlank, (text.dropWhile isBlank).rtakeWhile isBlank, rfl, ?_, ?_⟩
  · intro c hc
    rcases List.mem_append.1 hc with hc | hc
    · exact List.mem_takeWhile_imp hc
    · exact List.mem_rtakeWhile_imp hc
  · rw [trim_eq_rdropWhile, List.rdropWhile_append_rtakeWhile, List.takeWhile_append_dropWhile]

/-- The second text is what is left of the first without the blanks at its ends: only blanks stand
around it, and it has none at its own ends. -/
structure Trims (text rest : List Char) : Prop where
  eq_blanks_append : ∃ before after, (∀ c ∈ before ++ after, isBlank c = true) ∧
    text = before ++ (rest ++ after)
  trimmed : Trimmed rest

/-- Trimming leaves just what is between the blanks at the ends. -/
theorem trims_trim (text : List Char) : Trims text (trim text) := by
  obtain ⟨before, after, -, hblanks, htext⟩ := eq_blanks_append_trim text
  exact ⟨⟨before, after, hblanks, htext⟩, trimmed_trim text⟩

/-! ## Words -/

/-- The pieces of a list are made of its members that it is not split at. -/
theorem mem_of_mem_splitOnP {α : Type} {p : α → Bool} {text : List α} :
    ∀ piece ∈ text.splitOnP p, ∀ a ∈ piece, a ∈ text ∧ p a = false := by
  induction text with
  | nil => simp
  | cons a text ih =>
    have hcons : ∀ piece ∈ text.splitOnP p, ∀ b ∈ piece, b ∈ a :: text ∧ p b = false :=
      fun piece hpiece b hb => (ih piece hpiece b hb).imp_left (List.mem_cons_of_mem a)
    rw [List.splitOnP_cons_eq_if_modifyHead]
    split
    · -- The text is cut here, so an empty piece comes first.
      rw [List.forall_mem_cons]
      exact ⟨by simp, hcons⟩
    · next ha =>
      -- Otherwise the character joins the first piece of the rest.
      obtain ⟨piece, pieces, hsplit⟩ := List.exists_cons_of_ne_nil (List.splitOnP_ne_nil p text)
      rw [hsplit, List.forall_mem_cons] at hcons
      rw [hsplit, List.modifyHead_cons, List.forall_mem_cons, List.forall_mem_cons]
      exact ⟨⟨⟨List.mem_cons_self, by simpa using ha⟩, hcons.1⟩, hcons.2⟩

/-- The words of a text are non-empty, and their characters are those of the text that are not
blank. -/
theorem mem_words {text word : List Char} (h : word ∈ words text) :
    word ≠ [] ∧ ∀ c ∈ word, c ∈ text ∧ isBlank c = false := by
  obtain ⟨hsplit, hne⟩ := List.mem_filter.1 h
  exact ⟨by simpa using hne, mem_of_mem_splitOnP word hsplit⟩

/-- A blank divides the words of a text as it divides the text. -/
theorem words_append_blank {c : Char} (hc : isBlank c = true) (before after : List Char) :
    words (before ++ c :: after) = words before ++ words after := by
  rw [words, List.splitOnP_append_cons _ _ hc, List.filter_append, words, words]

/-- A text without blanks is its only word. -/
theorem words_of_forall {word : List Char} (hne : word ≠ [])
    (h : ∀ c ∈ word, isBlank c = false) : words word = [word] := by
  rw [words, List.splitOnP_eq_singleton h]
  simp [hne]

/-- Words that stand one space apart are read back from the text. -/
theorem words_intercalate {ws : List (List Char)}
    (h : ∀ word ∈ ws, word ≠ [] ∧ ∀ c ∈ word, isBlank c = false) :
    words ([' '].intercalate ws) = ws := by
  induction ws with
  | nil => rfl
  | cons word ws ih =>
    rw [List.forall_mem_cons] at h
    have hword : words word = [word] := words_of_forall h.1.1 h.1.2
    cases ws with
    | nil => simpa using hword
    | cons next ws =>
      rw [List.intercalate_cons_cons, List.append_assoc, List.singleton_append,
        words_append_blank (by decide), hword, ih h.2, List.singleton_append]

/-- What holds of a separator and of all texts that it joins holds of the whole. -/
theorem forall_mem_intercalate {separator : Char} {ws : List (List Char)} {P : Char → Prop}
    (hseparator : P separator) (h : ∀ word ∈ ws, ∀ c ∈ word, P c) :
    ∀ c ∈ [separator].intercalate ws, P c := by
  induction ws with
  | nil => simp
  | cons word ws ih =>
    rw [List.forall_mem_cons] at h
    -- After the last word comes no separator, so it is a case of its own.
    cases ws with
    | nil => simpa using h.1
    | cons next ws =>
      intro c hc
      rw [List.intercalate_cons_cons, List.append_assoc, List.mem_append, List.mem_append,
        List.mem_singleton] at hc
      rcases hc with hc | rfl | hc
      · exact h.1 c hc
      · exact hseparator
      · exact ih h.2 c hc

end CardEffects.Text
