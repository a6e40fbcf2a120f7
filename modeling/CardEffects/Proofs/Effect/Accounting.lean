import CardEffects.Effect
import CardEffects.Proofs.Instruction.Outcome
import CardEffects.Proofs.Text.Segments
import Mathlib.Data.List.Forall2

/-!
# What becomes of each segment

The segments of an effect text are counted in two ways. The index of an error counts all of them,
and the instructions of an effect come from those with tokens alone. This module says which segment
each instruction and each error is from, and that no segment goes unaccounted for.

* `Effect.exists_splits_trims`: the segments are what stands between separators, less the blanks
  around it.
* `Effect.parseSegments_cons_eq_ok_iff`, `Effect.parseSegments_cons_eq_error_iff`: what becomes of
  the first segment of a list.
* `Effect.Denotes`, `Effect.Error.Pinpoints`: the segment that an instruction is from, and the one
  that an error is about.
* `Effect.parse_accounts`: the account of all segments of a text.
-/

namespace CardEffects.Effect

/-- A segment without the blanks at its ends. -/
def trimmed (segment : String) : String :=
  String.ofList (Text.trim segment.toList)

/-- The segments of an effect text without the blanks at their ends. -/
def trimmedSegments (text : String) : List String :=
  (Text.segments separator text).map trimmed

/-- Whether the delimiters of a text match and there is a token in it. -/
def hasTokens (text : String) : Bool :=
  match Instruction.tokens text with
  | .ok (_ :: _) => true
  | _ => false

/-- The text is cut at every separator, and the segments lose the blanks at their ends. -/
theorem exists_splits_trims (text : String) :
    ∃ segments, Text.Splits ';' text segments ∧
      List.Forall₂ (fun segment rest => Text.Trims segment.toList rest.toList) segments
        (trimmedSegments text) := by
  refine ⟨Text.segments separator text, Text.splits_segments text, ?_⟩
  rw [trimmedSegments, List.forall₂_map_right_iff, List.forall₂_same]
  intro segment _
  rw [trimmed, String.toList_ofList]
  exact Text.trims_trim segment.toList

variable {validation : Validation} {index : ℕ} {segment : String} {segments : List String}

/-! ## The first segment of a list -/

theorem parseSegment_eq :
    parseSegment validation index segment =
      (Instruction.parse validation (trimmed segment)).mapError (⟨index, trimmed segment, ·⟩) := rfl

/-- A list of segments has instructions if the first segment is read and the others have. -/
theorem parseSegments_cons_eq_ok_iff {found : List Instruction} :
    parseSegments validation index (segment :: segments) = .ok found ↔
      ∃ result more, Instruction.parse validation (trimmed segment) = .ok result ∧
        parseSegments validation (index + 1) segments = .ok more ∧
        found = result.toList ++ more := by
  rw [parseSegments, parseSegment_eq]
  cases Instruction.parse validation (trimmed segment) with
  | error source => simp [Except.mapError]
  | ok result =>
    cases parseSegments validation (index + 1) segments <;>
      simp [Except.mapError, Except.map, eq_comm]

/-- A list of segments is at fault if the first segment is, or if the others are and the first is
not. -/
theorem parseSegments_cons_eq_error_iff {error : Error} :
    parseSegments validation index (segment :: segments) = .error error ↔
      (∃ source, Instruction.parse validation (trimmed segment) = .error source ∧
        error = ⟨index, trimmed segment, source⟩) ∨
      ∃ result, Instruction.parse validation (trimmed segment) = .ok result ∧
        parseSegments validation (index + 1) segments = .error error := by
  rw [parseSegments, parseSegment_eq]
  cases Instruction.parse validation (trimmed segment) with
  | error source => simp [Except.mapError, eq_comm]
  | ok result =>
    cases parseSegments validation (index + 1) segments <;>
      simp [Except.mapError, Except.map, eq_comm]

/-! ## Segments that are read -/

/-- The instruction is the one that the segment denotes, and holds the segment as its text. -/
def Denotes (validation : Validation) (segment : String) (instruction : Instruction) : Prop :=
  Instruction.parse validation segment = .ok (some instruction) ∧ instruction.text = segment

/-- A segment that is read denotes an instruction if and only if it has tokens. -/
theorem hasTokens_of_parse {result : Option Instruction}
    (h : Instruction.parse validation segment = .ok result) :
    hasTokens segment = result.isSome := by
  cases Instruction.outcome_of_parse h with
  | blank htokens => simp [hasTokens, htokens]
  | denoted htokens => simp [hasTokens, htokens]

/-- If a list of segments has instructions, each of its segments is read. -/
theorem exists_parse_of_parseSegments {found : List Instruction}
    (h : parseSegments validation index segments = .ok found) :
    ∀ segment ∈ segments.map trimmed, ∃ result,
      Instruction.parse validation segment = .ok result := by
  induction segments generalizing index found with
  | nil => simp
  | cons segment segments ih =>
    obtain ⟨result, more, hresult, hmore, -⟩ := parseSegments_cons_eq_ok_iff.1 h
    rw [List.map_cons, List.forall_mem_cons]
    exact ⟨⟨result, hresult⟩, ih hmore⟩

/-- The instructions of a list of segments are those of its segments with tokens, in order. -/
theorem forall₂_of_parseSegments {found : List Instruction}
    (h : parseSegments validation index segments = .ok found) :
    List.Forall₂ (Denotes validation) ((segments.map trimmed).filter hasTokens) found := by
  induction segments generalizing index found with
  | nil =>
    cases h
    exact .nil
  | cons segment segments ih =>
    obtain ⟨result, more, hresult, hmore, rfl⟩ := parseSegments_cons_eq_ok_iff.1 h
    -- The filter keeps the segment if and only if it leaves an instruction.
    have htokens := hasTokens_of_parse hresult
    rw [List.map_cons, List.filter_cons, htokens]
    cases result with
    | none => exact ih hmore
    | some instruction =>
      exact .cons ⟨hresult, Instruction.text_eq_of_parse hresult⟩ (ih hmore)

/-! ## The first segment that is not read -/

/-- If a list of segments is at fault, so is one of its segments, and all segments before that one
are read. -/
theorem exists_of_parseSegments_error {error : Error}
    (h : parseSegments validation index segments = .error error) :
    ∃ before after, segments.map trimmed = before ++ error.segment :: after ∧
      error.index = index + before.length ∧
      Instruction.parse validation error.segment = .error error.source ∧
      ∀ earlier ∈ before, ∃ result, Instruction.parse validation earlier = .ok result := by
  induction segments generalizing index with
  | nil => cases h
  | cons segment segments ih =>
    rcases parseSegments_cons_eq_error_iff.1 h with
      ⟨source, hsource, rfl⟩ | ⟨result, hresult, hrest⟩
    · exact ⟨[], segments.map trimmed, rfl, rfl, hsource, by simp⟩
    · obtain ⟨before, after, hsegments, hindex, hsource, hbefore⟩ := ih hrest
      refine ⟨trimmed segment :: before, after, ?_, ?_, hsource, ?_⟩
      · rw [List.map_cons, hsegments, List.cons_append]
      · rw [hindex, List.length_cons]
        omega
      · exact List.forall_mem_cons.2 ⟨⟨result, hresult⟩, hbefore⟩

/-- The error is about the first segment of the text that is not read. -/
structure Error.Pinpoints (error : Error) (validation : Validation) (text : String) : Prop where
  /-- The segment is the one with the index. -/
  segment_eq : (trimmedSegments text)[error.index]? = some error.segment
  /-- Every segment before it is read. -/
  earlier : ∀ segment ∈ (trimmedSegments text).take error.index,
    ∃ result, Instruction.parse validation segment = .ok result
  /-- The source says why it is not. -/
  source_eq : Instruction.parse validation error.segment = .error error.source
  /-- The source holds the segment. -/
  text_eq : error.source.text = error.segment
  /-- The offset of a delimiter that is out of balance counts from the start of the segment. -/
  blames : ∀ blamed, error.source.fault = .unbalanced blamed →
    blamed.Blames error.segment.toList ∧
      error.segment.toList[blamed.offset]? = some blamed.imbalance.delimiter

/-- The error of a text is about the first of its segments that is not read. -/
theorem pinpoints_of_parse {text : String} {error : Error}
    (h : parse validation text = .error error) : error.Pinpoints validation text := by
  obtain ⟨before, after, hsegments, hindex, hsource, hbefore⟩ := exists_of_parseSegments_error h
  rw [Nat.zero_add] at hindex
  have htext : trimmedSegments text = before ++ error.segment :: after := hsegments
  constructor
  · rw [htext, hindex]
    simp
  · rw [htext, hindex, List.take_left]
    exact hbefore
  · exact hsource
  · exact Instruction.text_eq_of_parse_error hsource
  · intro blamed hfault
    have hblames := Instruction.blames_of_parse_error hsource hfault
    exact ⟨hblames, hblames.getElem?_eq⟩

namespace Error.Pinpoints

variable {text : String} {error other : Error}

/-- No error is about a segment further left than the first that is not read. -/
theorem index_le (h : error.Pinpoints validation text) (hother : other.Pinpoints validation text) :
    error.index ≤ other.index := by
  by_contra hlt
  -- Else the other segment is before this one, and would have been read.
  have hmem : other.segment ∈ (trimmedSegments text).take error.index := by
    refine List.mem_of_getElem? (i := other.index) ?_
    rw [List.getElem?_take_of_lt (Nat.lt_of_not_le hlt)]
    exact hother.segment_eq
  obtain ⟨result, hresult⟩ := h.earlier other.segment hmem
  rw [hother.source_eq] at hresult
  cases hresult

/-- There is only one first segment that is not read. -/
theorem eq (h : error.Pinpoints validation text) (hother : other.Pinpoints validation text) :
    error = other := by
  have hindex : error.index = other.index := Nat.le_antisymm (h.index_le hother) (hother.index_le h)
  have hsegment : error.segment = other.segment := by
    have hsome := h.segment_eq
    rw [hindex, hother.segment_eq] at hsome
    exact (Option.some.inj hsome).symm
  have hsource : error.source = other.source := by
    have herror := h.source_eq
    rw [hsegment, hother.source_eq] at herror
    exact (Except.error.inj herror).symm
  obtain ⟨index, segment, source⟩ := error
  cases hindex
  cases hsegment
  cases hsource
  rfl

end Error.Pinpoints

/-! ## Whole texts -/

/-- Every segment that is not empty is cut into tokens and read. -/
def Accepted (validation : Validation) (text : String) : Prop :=
  ∀ segment ∈ trimmedSegments text, segment ≠ "" →
    (∃ found, Instruction.tokens segment = .ok found) ∧
      ∃ result, Instruction.parse validation segment = .ok result

variable {text : String}

/-- A text is no effect exactly for the first of its segments that is not read. -/
theorem parse_eq_error_iff {error : Error} :
    parse validation text = .error error ↔ error.Pinpoints validation text := by
  refine ⟨pinpoints_of_parse, fun h => ?_⟩
  cases hparse : parse validation text with
  | error other => rw [h.eq (pinpoints_of_parse hparse)]
  | ok found =>
    -- All segments of an effect are read, and this one is not.
    obtain ⟨result, hresult⟩ :=
      exists_parse_of_parseSegments hparse error.segment (List.mem_of_getElem? h.segment_eq)
    rw [h.source_eq] at hresult
    cases hresult

/-- Every segment of an effect is cut into tokens and read. -/
theorem accepted_of_parse {found : List Instruction} (h : parse validation text = .ok found) :
    Accepted validation text := by
  intro segment hmem _
  obtain ⟨result, hresult⟩ := exists_parse_of_parseSegments h segment hmem
  exact ⟨Instruction.exists_tokens_of_parse hresult, result, hresult⟩

theorem exists_parse_iff :
    (∃ found, parse validation text = .ok found) ↔ Accepted validation text := by
  refine ⟨fun ⟨found, h⟩ => accepted_of_parse h, fun h => ?_⟩
  cases hparse : parse validation text with
  | ok found => exact ⟨found, rfl⟩
  | error error =>
    -- The segment that is not read cannot be empty, so it would have had to be accepted.
    have hpinpoints := pinpoints_of_parse hparse
    have hsource := hpinpoints.source_eq
    have hne : error.segment ≠ "" := by
      intro hempty
      rw [hempty] at hsource
      cases hsource
    obtain ⟨result, hresult⟩ :=
      (h error.segment (List.mem_of_getElem? hpinpoints.segment_eq) hne).2
    rw [hresult] at hsource
    cases hsource

/-- No segment denotes two instructions. -/
theorem rightUnique_denotes : Relator.RightUnique (Denotes validation) := by
  intro segment instruction other h hother
  have hparse := h.1
  rw [hother.1] at hparse
  exact (Option.some.inj (Except.ok.inj hparse)).symm

/-- The instructions of an effect are those that its segments with tokens denote. -/
theorem parse_eq_ok_iff {found : List Instruction} :
    parse validation text = .ok found ↔ Accepted validation text ∧
      List.Forall₂ (Denotes validation) ((trimmedSegments text).filter hasTokens) found := by
  refine ⟨fun h => ⟨accepted_of_parse h, forall₂_of_parseSegments h⟩, fun ⟨haccepted, hfound⟩ => ?_⟩
  obtain ⟨other, hother⟩ := exists_parse_iff.2 haccepted
  -- The text has instructions, and no others than its segments denote.
  have heq : other = found :=
    List.right_unique_forall₂' rightUnique_denotes (forall₂_of_parseSegments hother) hfound
  rw [hother, heq]

/-- What becomes of each segment of an effect text. The segments are what the text consists of
between its separators, without the blanks at their ends. The text is an effect if and only if every
segment that is not empty is cut into tokens and read. Its instructions are then those that its
segments with at least one token denote, in the same order and each with its segment as its text. If
the text is no effect, the error is about the first segment that is not read: it has the index and
the reason of that segment, and the offset of a delimiter that is out of balance is the offset
there. -/
theorem parse_accounts (validation : Validation) (text : String) :
    (∃ segments, Text.Splits ';' text segments ∧
        List.Forall₂ (fun segment rest => Text.Trims segment.toList rest.toList) segments
          (trimmedSegments text)) ∧
      ((∃ found, parse validation text = .ok found) ↔ Accepted validation text) ∧
      (∀ found, parse validation text = .ok found ↔ Accepted validation text ∧
        List.Forall₂ (Denotes validation) ((trimmedSegments text).filter hasTokens) found) ∧
      ∀ error, parse validation text = .error error ↔ error.Pinpoints validation text :=
  ⟨exists_splits_trims text, exists_parse_iff, fun _ => parse_eq_ok_iff,
    fun _ => parse_eq_error_iff⟩

/-- Neither a blank segment nor one that holds a blank literal alone leaves an instruction. -/
example : (parse .advisory " ; \"  \" ;draw ; flying").map (·.map (·.text)) =
    .ok ["draw", "flying"] := rfl

end CardEffects.Effect
