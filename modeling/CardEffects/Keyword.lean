/-!
# Keywords

A keyword is a value that a text names by one fixed word. The class `Keyword` holds a finite set of
them in the order in which they are listed, each with its word, and the two facts that make the
words a faithful naming: no keyword is missing from the list and no word stands for two of them.

* `Keyword.ofWord?_eq_some_iff`: looking a word up finds exactly the keyword written that way.
* `Keyword.ofWord?_word`: the word of a keyword is read as that keyword.
-/

namespace CardEffects

/-- A finite set of values, each named by a word of its own. -/
class Keyword (α : Type) where
  /-- Every keyword, in the order in which they are listed. -/
  all : List α
  /-- The word that names a keyword in a text. -/
  word : α → String
  /-- No keyword is missing from the list. -/
  mem_all : ∀ keyword, keyword ∈ all
  /-- No word names two keywords. -/
  nodup_map_word : (all.map word).Nodup

namespace Keyword

/-- Members of a list that a map takes to one value are equal, if the mapped list has no
repetitions. -/
private theorem eq_of_nodup_map {α β : Type} {f : α → β} {l : List α} (hnodup : (l.map f).Nodup)
    {a b : α} (ha : a ∈ l) (hb : b ∈ l) (hab : f a = f b) : a = b := by
  induction l with
  | nil => cases ha
  | cons x l ih =>
    rw [List.map_cons, List.nodup_cons] at hnodup
    rcases List.mem_cons.1 ha with hax | hal <;> rcases List.mem_cons.1 hb with hbx | hbl
    · rw [hax, hbx]
    · exact absurd (List.mem_map.2 ⟨b, hbl, by rw [← hab, hax]⟩) hnodup.1
    · exact absurd (List.mem_map.2 ⟨a, hal, by rw [hab, hbx]⟩) hnodup.1
    · exact ih hnodup.2 hal hbl

variable {α : Type} [Keyword α]

/-- The keyword that a word names; words are compared letter for letter. -/
def ofWord? (text : String) : Option α :=
  all.find? fun keyword => word keyword == text

/-- A keyword is determined by its word. -/
theorem eq_of_word_eq {a b : α} (h : word a = word b) : a = b :=
  eq_of_nodup_map nodup_map_word (mem_all a) (mem_all b) h

/-- The word of a keyword names that keyword. -/
@[simp]
theorem ofWord?_word (keyword : α) : ofWord? (word keyword) = some keyword := by
  cases hfound : (ofWord? (word keyword) : Option α) with
  | none => simpa using List.find?_eq_none.1 hfound keyword (mem_all keyword)
  | some found => exact congrArg some (eq_of_word_eq (by simpa using List.find?_some hfound))

/-- A word names a keyword exactly when it is the keyword's word. -/
theorem ofWord?_eq_some_iff {text : String} {keyword : α} :
    ofWord? text = some keyword ↔ word keyword = text :=
  ⟨fun h => by simpa using List.find?_some h, fun h => h ▸ ofWord?_word keyword⟩

end Keyword

end CardEffects
