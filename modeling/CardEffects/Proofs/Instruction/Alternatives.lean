import CardEffects.Instruction
import CardEffects.Proofs.Text.Segments

/-!
# Alternatives joined by slashes

A word is taken apart at its slashes without loss, and the parts are the kinds that it admits as a
target.

* `alternatives_joinAlternatives`: alternatives without slashes are read back from the word in which
  they are joined by slashes.
* `Target.admits_ofWord_iff`: a target admits a kind that stands in its word between slashes.
-/

namespace CardEffects

/-- The word that lists alternatives, with a slash between each two. -/
def joinAlternatives (parts : List String) : String :=
  "/".intercalate parts

/-- Alternatives without slashes are read back from the word in which slashes join them. -/
theorem alternatives_joinAlternatives {parts : List String} (hne : parts ≠ [])
    (h : ∀ part ∈ parts, '/' ∉ part.toList) : alternatives (joinAlternatives parts) = parts := by
  have hslash : ∀ part ∈ parts.map String.toList, '/' ∉ part := List.forall_mem_map.2 h
  have hsplit : (joinAlternatives parts).toList.splitOn '/' = parts.map String.toList := by
    rw [joinAlternatives, String.toList_intercalate]
    exact List.splitOn_intercalate '/' hslash (by simpa using hne)
  rw [alternatives, Text.segments, hsplit, List.map_map]
  simp [Function.comp_def]

/-- A word that lists two alternatives or more has a slash. -/
theorem isAlternatives_joinAlternatives {first second : String} {parts : List String} :
    isAlternatives (joinAlternatives (first :: second :: parts)) = true := by
  simp [isAlternatives, joinAlternatives, String.intercalate_cons_cons]

theorem isAlternatives_iff {word : String} : isAlternatives word = true ↔ '/' ∈ word.toList := by
  rw [isAlternatives, List.contains_iff_mem]

/-! ## Targets -/

namespace Target

variable {word kind : String}

/-- The kinds of a target are the alternatives of its word, whether it has several or one. -/
theorem kinds_ofWord (word : String) : (ofWord word).kinds = alternatives word := by
  rw [ofWord]
  split
  · rfl
  · next hslash =>
    rw [isAlternatives_iff] at hslash
    exact (Text.segments_of_not_mem hslash).symm

/-- A target is a choice of kinds just when its word has a slash. -/
theorem exists_ofWord_eq_anyOf_iff :
    (∃ kinds, ofWord word = .anyOf kinds) ↔ '/' ∈ word.toList := by
  rw [ofWord, ← isAlternatives_iff]
  split
  · next hslash => exact iff_of_true ⟨_, rfl⟩ hslash
  · next hslash => exact iff_of_false nofun hslash

/-- A target admits the kinds without slashes that are its word, or stand in it before the first
slash, behind the last one or between two. -/
theorem admits_ofWord_iff :
    (ofWord word).Admits kind ↔ '/' ∉ kind.toList ∧
      (word = kind ∨ (∃ after, word = kind ++ "/" ++ after) ∨
        (∃ before, word = before ++ "/" ++ kind) ∨
        ∃ before after, word = before ++ "/" ++ kind ++ "/" ++ after) := by
  rw [Admits, kinds_ofWord]
  exact Text.mem_segments_iff

end Target

end CardEffects
