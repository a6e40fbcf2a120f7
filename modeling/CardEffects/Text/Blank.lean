/-!
# Blank characters

The blanks of a text are the characters of the Unicode property `White_Space`. Words are cut at
blanks and quoted literals lose the blanks at their two ends, so every other module asks this one
which characters those are.

* `isBlank`: the property itself, read from a table of ranges.
* `trim`: a text without the blanks at its ends.
* `indent`: how many blanks a text starts with, which is how far `trim` shifts it.
* `words`: the maximal runs of characters that are not blank.
-/

namespace CardEffects.Text

/-- The code points with the property `White_Space`, as inclusive ranges in increasing order. -/
def blankRanges : List (Nat × Nat) :=
  [(0x0009, 0x000D), (0x0020, 0x0020), (0x0085, 0x0085), (0x00A0, 0x00A0), (0x1680, 0x1680),
    (0x2000, 0x200A), (0x2028, 0x2029), (0x202F, 0x202F), (0x205F, 0x205F), (0x3000, 0x3000)]

/-- The table holds twenty-five code points. -/
example : (blankRanges.map fun range => range.2 + 1 - range.1).sum = 25 := by decide

/-- Whether a character has the property `White_Space`. -/
def isBlank (c : Char) : Bool :=
  blankRanges.any fun range => range.1 ≤ c.toNat && c.toNat ≤ range.2

/-- Every character that the core library calls whitespace is blank. -/
theorem isBlank_of_isWhitespace {c : Char} (h : c.isWhitespace = true) : isBlank c = true := by
  simp only [Char.isWhitespace, Bool.or_eq_true, decide_eq_true_eq] at h
  rcases h with ((rfl | rfl) | rfl) | rfl <;> decide

/-- A text without the blanks it starts and ends with. -/
def trim (text : List Char) : List Char :=
  ((text.dropWhile isBlank).reverse.dropWhile isBlank).reverse

/-- The number of blanks a text starts with. -/
def indent (text : List Char) : Nat :=
  (text.takeWhile isBlank).length

/-- The words of a text in order: the maximal runs of characters that are not blank. -/
def words (text : List Char) : List (List Char) :=
  (text.splitOnP isBlank).filter fun word => !word.isEmpty

end CardEffects.Text
