/-!
# Segments of a text

An effect is a list of instructions between separators, and some words of an instruction are lists
of alternatives between slashes. Both are cut the same way: at every separator, keeping the empty
segments, so that the segments joined again by the separator are the text.
-/

namespace CardEffects.Text

/-- The segments of `text` between the occurrences of `separator`; one more than there are
occurrences, and empty wherever two separators, or a separator and an end, meet. -/
def segments (separator : Char) (text : String) : List String :=
  (text.toList.splitOn separator).map String.ofList

example : segments ';' "a;;b" = ["a", "", "b"] := by decide
example : segments ';' "" = [""] := by decide

end CardEffects.Text
