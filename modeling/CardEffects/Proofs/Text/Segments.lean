import CardEffects.Proofs.Text.Blank
import CardEffects.Text.Segments
import Mathlib.Data.List.Basic

/-!
# Segments and separators

How the segments of a text lie in it.

* `segments_append`: a separator divides the segments as it divides the text.
* `length_segments`: there is one segment more than there are separators.
* `intercalate_segments`: joined by the separator the segments are the text.
* `Splits`: a list of parts is what a text consists of between its separators.
* `mem_segments_iff`: a segment is what stands between two separators, or one of them and an end.
* `intercalate_splitOn_eq_map`: joined by another character the segments are the text with that
  character for each separator.
-/

namespace CardEffects.Text

variable {separator : Char}

/-- The text is cut into the parts at each of its separators: there is no separator left in a part,
there is one part more than there are separators, and joined by separators the parts are the
text. -/
structure Splits (separator : Char) (text : String) (parts : List String) : Prop where
  separator_not_mem : ∀ part ∈ parts, separator ∉ part.toList
  length_eq : parts.length = text.toList.count separator + 1
  join_eq : (String.singleton separator).intercalate parts = text

/-- A separator divides the pieces of a text as it divides the text. -/
theorem splitOn_append_cons (before after : List Char) :
    (before ++ separator :: after).splitOn separator =
      before.splitOn separator ++ after.splitOn separator :=
  List.splitOnP_append_cons _ _ (beq_self_eq_true separator)

/-- A separator divides the segments of a text as it divides the text. -/
theorem segments_append (before after : String) :
    segments separator (before ++ String.singleton separator ++ after) =
      segments separator before ++ segments separator after := by
  have htext : (before ++ String.singleton separator ++ after).toList =
      before.toList ++ separator :: after.toList := by
    simp
  rw [segments, htext, splitOn_append_cons, List.map_append, segments, segments]

/-- A character that comes first either is a separator, before which there is an empty segment, or
is part of the first segment. -/
theorem splitOn_cons (c : Char) (text : List Char) :
    (c :: text).splitOn separator =
      if c = separator then [] :: text.splitOn separator
      else (text.splitOn separator).modifyHead (c :: ·) := by
  rw [List.splitOn, List.splitOnP_cons_eq_if_modifyHead]
  simp only [beq_iff_eq, List.splitOn]

/-- There is one segment more than there are separators. -/
theorem length_segments (text : String) :
    (segments separator text).length = text.toList.count separator + 1 := by
  rw [segments, List.length_map]
  induction text.toList with
  | nil => rfl
  | cons c text ih =>
    rw [splitOn_cons]
    split
    · next hc => rw [List.length_cons, ih, hc, List.count_cons_self]
    · next hc => rw [List.length_modifyHead, ih, List.count_cons_of_ne hc]

/-- There is no separator inside a segment. -/
theorem separator_not_mem_of_mem_segments {text part : String}
    (h : part ∈ segments separator text) : separator ∉ part.toList := by
  obtain ⟨piece, hpiece, rfl⟩ := List.mem_map.1 h
  intro hmem
  rw [String.toList_ofList] at hmem
  simpa using (mem_of_mem_splitOnP piece hpiece separator hmem).2

/-- A text without separators is its only segment. -/
theorem segments_of_not_mem {text : String} (h : separator ∉ text.toList) :
    segments separator text = [text] := by
  rw [segments, List.splitOn_eq_singleton h, List.map_singleton, String.ofList_toList]

/-- Joined by the separator the segments are the text. -/
theorem intercalate_segments (text : String) :
    (String.singleton separator).intercalate (segments separator text) = text := by
  rw [← String.toList_inj, String.toList_intercalate, segments, List.map_map]
  simp [Function.comp_def]

/-- The segments of a text are its parts, the empty ones included. -/
theorem splits_segments (text : String) : Splits separator text (segments separator text) where
  separator_not_mem _ := separator_not_mem_of_mem_segments
  length_eq := length_segments text
  join_eq := intercalate_segments text

/-- The segments of a text are the texts without separators that stand in it between two separators,
or between a separator and an end, or are all of it. -/
theorem mem_segments_iff {text part : String} :
    part ∈ segments separator text ↔ separator ∉ part.toList ∧
      (text = part ∨ (∃ after, text = part ++ String.singleton separator ++ after) ∨
        (∃ before, text = before ++ String.singleton separator ++ part) ∨
        ∃ before after, text =
          before ++ String.singleton separator ++ part ++ String.singleton separator ++ after) := by
  constructor
  · intro h
    refine ⟨separator_not_mem_of_mem_segments h, ?_⟩
    -- The text is what the segments before the part, the part and those after it are joined to.
    obtain ⟨before, after, hsegments⟩ := List.append_of_mem h
    rw [← intercalate_segments text, hsegments]
    rcases eq_or_ne before [] with rfl | hbefore <;> rcases after with _ | ⟨next, after⟩
    · exact .inl String.intercalate_singleton
    · exact .inr (.inl ⟨_, String.intercalate_cons_cons⟩)
    · refine .inr (.inr (.inl ⟨(String.singleton separator).intercalate before, ?_⟩))
      rw [String.intercalate_append_of_ne_nil hbefore (List.cons_ne_nil _ _),
        String.intercalate_singleton]
    · refine .inr (.inr (.inr ⟨(String.singleton separator).intercalate before,
        (String.singleton separator).intercalate (next :: after), ?_⟩))
      rw [String.intercalate_append_of_ne_nil hbefore (List.cons_ne_nil _ _),
        String.intercalate_cons_cons]
      simp only [String.append_assoc]
  · -- Without separators the part is its own only segment, whatever is on its sides.
    rintro ⟨hpart, rfl | ⟨after, rfl⟩ | ⟨before, rfl⟩ | ⟨before, after, rfl⟩⟩ <;>
      simp only [segments_append, segments_of_not_mem hpart, List.mem_append, List.mem_singleton,
        true_or, or_true]

/-- Joined by another character the segments are the text with that character for each
separator. -/
theorem intercalate_splitOn_eq_map (joint : Char) (text : List Char) :
    [joint].intercalate (text.splitOn separator) =
      text.map fun c => if c = separator then joint else c := by
  induction text with
  | nil => rfl
  | cons c text ih =>
    obtain ⟨first, rest, hsplit⟩ :=
      List.exists_cons_of_ne_nil (List.splitOn_ne_nil separator text)
    rw [List.map_cons, ← ih, splitOn_cons, hsplit]
    split
    · rw [List.intercalate_cons_cons, List.nil_append, List.singleton_append]
    · -- The character goes in front of the first segment, which may be the only one.
      rw [List.modifyHead_cons]
      cases rest with
      | nil => simp
      | cons second rest =>
        rw [List.intercalate_cons_cons, List.intercalate_cons_cons, List.cons_append,
          List.cons_append]

end CardEffects.Text
