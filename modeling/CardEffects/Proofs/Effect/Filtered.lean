import CardEffects.Effect
import CardEffects.Proofs.Instruction.Filtered

/-!
# Enforced lists only filter effects

What enforced lists do to the reading of one instruction they do to the reading of a whole effect:
segment by segment the strict reading comes to what the lax one comes to, until it refuses one.

* `Effect.filtered_parse`: a strict reading of an effect text relates to a lax one as a filter does.
* `Validation.parse_filters`: for instructions and for effects, which results and which errors a
  reader has that enforces lists.
-/

namespace CardEffects

namespace Effect

variable (validation : Validation)

/-- Every instruction is one that a reader with the given lists accepts. -/
def AllAdmitted (found : List Instruction) : Prop :=
  ∀ instruction ∈ found, validation.Admits instruction

/-- A segment is read under all settings alike, or refused for a word outside a list. -/
theorem filtered_parseSegment (index : ℕ) (segment : String) :
    Filtered (fun result => ∀ instruction ∈ result, validation.Admits instruction)
      (fun error => validation.Refuses error.source.fault)
      (parseSegment .advisory index segment) (parseSegment validation index segment) := by
  rw [parseSegment, parseSegment]
  exact (Instruction.filtered_parse validation _).mapError fun _ => id

/-- A list of segments is read segment by segment. -/
theorem parseSegments_cons (index : ℕ) (segment : String) (segments : List String) :
    parseSegments validation index (segment :: segments) =
      parseSegment validation index segment >>= fun found =>
        (parseSegments validation (index + 1) segments).map (found.toList ++ ·) := by
  rw [parseSegments]
  cases parseSegment validation index segment <;> rfl

theorem allAdmitted_append {result : Option Instruction} {found : List Instruction} :
    AllAdmitted validation (result.toList ++ found) ↔
      (∀ instruction ∈ result, validation.Admits instruction) ∧ AllAdmitted validation found := by
  simp [AllAdmitted, or_imp, forall_and]

theorem filtered_parseSegments (index : ℕ) (segments : List String) :
    Filtered (AllAdmitted validation) (fun error => validation.Refuses error.source.fault)
      (parseSegments .advisory index segments) (parseSegments validation index segments) := by
  induction segments generalizing index with
  | nil => exact .ok (by simp [AllAdmitted])
  | cons segment segments ih =>
    rw [parseSegments_cons, parseSegments_cons]
    refine (filtered_parseSegment validation index segment).bind (fun result hresult => ?_)
      fun result found hfound hadmitted => ?_
    · refine (ih (index + 1)).map fun more => ?_
      rw [allAdmitted_append]
      exact and_iff_right hresult
    · -- What is refused in the first segment is among the instructions of all.
      cases hmore : parseSegments .advisory (index + 1) segments with
      | error error =>
        rw [hmore] at hfound
        cases hfound
      | ok more =>
        rw [hmore] at hfound
        cases hfound
        exact ((allAdmitted_append validation).1 hadmitted).1

/-- A strict reading of an effect text comes to what a lax one comes to, or is a refusal. -/
theorem filtered_parse (text : String) :
    Filtered (AllAdmitted validation) (fun error => validation.Refuses error.source.fault)
      (parse .advisory text) (parse validation text) :=
  filtered_parseSegments validation 0 _

end Effect

/-- A reader that enforces no list finds no word outside one. -/
theorem Instruction.ne_unknown_of_parse_advisory {text : String} {error : Instruction.Error}
    (h : parse .advisory text = .error error) (word : String) :
    error.fault ≠ .unknownTrigger word ∧ error.fault ≠ .unknownField word := by
  rcases outcome_of_parse h with hscan | _ | _ | ⟨-, hread⟩
  · exact ⟨nofun, nofun⟩
  · -- Tokens have such faults only for words that are not admitted.
    have hwarranted := warranted_ofTokens .advisory text _ _ hread
    constructor
    · rintro ⟨⟩
      exact hwarranted (Validation.admitsTrigger_advisory word)
    · rintro ⟨⟩
      exact hwarranted (Validation.admitsField_advisory word)

/-- Enforced lists only filter. A reader that enforces lists reads those instructions that a reader
without lists reads and that have no trigger and no field outside an enforced list, and finds no
instruction where the other finds none. Its errors are those of the other, and refusals for a word
outside an enforced list, which the other never has. It is the same with effects, where every
instruction counts. -/
theorem Validation.parse_filters (validation : Validation) (text : String) :
    (∀ instruction, Instruction.parse validation text = .ok (some instruction) ↔
        Instruction.parse .advisory text = .ok (some instruction) ∧
          validation.Admits instruction) ∧
      (Instruction.parse validation text = .ok none ↔
        Instruction.parse .advisory text = .ok none) ∧
      (∀ error, Instruction.parse validation text = .error error →
        Instruction.parse .advisory text = .error error ∨ validation.Refuses error.fault) ∧
      (∀ error, Instruction.parse .advisory text = .error error → ∀ word,
        error.fault ≠ .unknownTrigger word ∧ error.fault ≠ .unknownField word) ∧
      (∀ found, Effect.parse validation text = .ok found ↔
        Effect.parse .advisory text = .ok found ∧
          ∀ instruction ∈ found, validation.Admits instruction) ∧
      ∀ error, Effect.parse validation text = .error error →
        Effect.parse .advisory text = .error error ∨ validation.Refuses error.source.fault := by
  have hinstruction := Instruction.filtered_parse validation text
  have heffect := Effect.filtered_parse validation text
  refine ⟨fun instruction => ?_, ?_, fun error => hinstruction.eq_error_or_refuses,
    fun error => Instruction.ne_unknown_of_parse_advisory, heffect.eq_ok_iff,
    fun error => heffect.eq_error_or_refuses⟩
  · rw [hinstruction.eq_ok_iff]
    simp
  · rw [hinstruction.eq_ok_iff]
    simp

/-- A trigger is refused before the action after it is looked at. -/
example :
    Instruction.parse .strict "foo? frobnicate" =
        .error ⟨"foo? frobnicate", .unknownTrigger "foo?"⟩ ∧
      Instruction.parse .advisory "foo? frobnicate" =
        .error ⟨"foo? frobnicate", .unknownAction "frobnicate"⟩ :=
  ⟨rfl, rfl⟩

end CardEffects
