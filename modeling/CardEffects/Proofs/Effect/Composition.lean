import CardEffects.Effect
import CardEffects.Proofs.Text.Segments

/-!
# Effects in a row

An effect text is read segment by segment, and what is read of a segment does not depend on the
segments around it. So the effect of two texts with a separator between them is the first effect and
then the second, unless one of the texts is no effect; then the first error is that of the whole,
and one in the second text has the segments of the first in front.

* `Effect.parseSegments_append`: the law for lists of segments.
* `Effect.parse_append`: the law for texts.
-/

namespace CardEffects.Effect

/-- The same error in a text that has `count` more segments in front. -/
def Error.shift (error : Error) (count : ℕ) : Error :=
  { error with index := error.index + count }

variable (validation : Validation)

/-- A segment further right is read alike, and its error lies as much further right. -/
theorem parseSegment_add (index count : ℕ) (segment : String) :
    parseSegment validation (index + count) segment =
      (parseSegment validation index segment).mapError (·.shift count) := by
  rw [parseSegment, parseSegment]
  cases Instruction.parse validation (String.ofList (Text.trim segment.toList)) <;> rfl

/-- Segments that stand further right are read in the same way. -/
theorem parseSegments_add (index count : ℕ) (segments : List String) :
    parseSegments validation (index + count) segments =
      (parseSegments validation index segments).mapError (·.shift count) := by
  induction segments generalizing index with
  | nil => rfl
  | cons segment segments ih =>
    rw [parseSegments, parseSegments, parseSegment_add, Nat.add_right_comm, ih]
    cases parseSegment validation index segment with
    | error error => rfl
    | ok found => cases parseSegments validation (index + 1) segments <;> rfl

/-- Two lists of segments in a row are read one after the other. -/
theorem parseSegments_append (index : ℕ) (first second : List String) :
    parseSegments validation index (first ++ second) =
      (parseSegments validation index first).bind fun found =>
        (parseSegments validation (index + first.length) second).map (found ++ ·) := by
  induction first generalizing index with
  | nil =>
    rw [List.nil_append, List.length_nil, Nat.add_zero, parseSegments]
    cases parseSegments validation index second <;> rfl
  | cons segment first ih =>
    rw [List.cons_append, parseSegments, parseSegments, ih, List.length_cons, Nat.add_right_comm,
      Nat.add_assoc]
    -- The first error ends the reading, so what is right of it is looked at only if there is none.
    cases parseSegment validation index segment with
    | error error => rfl
    | ok found =>
      cases parseSegments validation (index + 1) first with
      | error error => rfl
      | ok more =>
        cases parseSegments validation (index + (first.length + 1)) second <;>
          simp [Except.bind, Except.map]

/-- The effect of two texts with a separator between them is the first effect and then the second.
If the first text is no effect, its error is that of the whole, whatever the second text is; if the
second text is the only one that is no effect, its error is, and lies further right by the segments
of the first text, of which there is one more than there are separators. -/
theorem parse_append (first second : String) :
    parse validation (first ++ String.singleton separator ++ second) =
      match parse validation first, parse validation second with
      | .error error, _ => .error error
      | .ok found, .ok more => .ok (found ++ more)
      | .ok _, .error error => .error (error.shift (first.toList.count separator + 1)) := by
  have hcount : 0 + (Text.segments separator first).length =
      0 + (first.toList.count separator + 1) := by
    rw [Text.length_segments]
  rw [parse, Text.segments_append, parseSegments_append, hcount, parseSegments_add, parse, parse]
  cases parseSegments validation 0 (Text.segments separator first) with
  | error error => rfl
  | ok found => cases parseSegments validation 0 (Text.segments separator second) <;> rfl

/-- The index counts the segments without tokens as well. -/
example :
    parse .advisory ("draw;; \" \"" ++ String.singleton separator ++ "haste;frobnicate") =
      .error ⟨4, "frobnicate", ⟨"frobnicate", .unknownAction "frobnicate"⟩⟩ := rfl

end CardEffects.Effect
