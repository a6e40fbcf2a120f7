import CardEffects.Lexicon

/-!
# Validation

The lists of triggers and of fields are advisory: unless a reader is told otherwise, a word outside
them is accepted as it stands. A `Validation` says which of the two lists are enforced.
-/

namespace CardEffects

/-- Which word lists a reader of instructions enforces. -/
structure Validation where
  /-- Whether triggers outside `Lexicon.triggers` are refused. -/
  triggers : Bool
  /-- Whether fields outside `Lexicon.fields` are refused. -/
  fields : Bool
deriving DecidableEq, Repr

namespace Validation

/-- Enforce neither list. -/
def advisory : Validation := ⟨false, false⟩

/-- Enforce both lists. -/
def strict : Validation := ⟨true, true⟩

instance : Inhabited Validation := ⟨advisory⟩

/-- Enforce the list of triggers as well. -/
def enforceTriggers (validation : Validation) : Validation :=
  { validation with triggers := true }

/-- Enforce the list of fields as well. -/
def enforceFields (validation : Validation) : Validation :=
  { validation with fields := true }

/-- Whether a word may stand as a trigger. -/
def AdmitsTrigger (validation : Validation) (word : String) : Prop :=
  validation.triggers = true → word ∈ Lexicon.triggers

/-- Whether a word may stand as a field. -/
def AdmitsField (validation : Validation) (word : String) : Prop :=
  validation.fields = true → word ∈ Lexicon.fields

instance (validation : Validation) (word : String) : Decidable (validation.AdmitsTrigger word) :=
  inferInstanceAs (Decidable (_ → _))

instance (validation : Validation) (word : String) : Decidable (validation.AdmitsField word) :=
  inferInstanceAs (Decidable (_ → _))

/-- Where neither list is enforced every trigger is admitted. -/
@[simp]
theorem admitsTrigger_advisory (word : String) : advisory.AdmitsTrigger word := by
  intro h
  cases h

/-- Where neither list is enforced every field is admitted. -/
@[simp]
theorem admitsField_advisory (word : String) : advisory.AdmitsField word := by
  intro h
  cases h

end Validation

end CardEffects
