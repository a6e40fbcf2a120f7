import CardEffects.Proofs.Instruction.Shape

/-!
# Enforced lists only filter

A reader that enforces the lists of triggers and fields looks words up while it reads, before it
knows whether the rest of the instruction is in order. All the same it does not read anything in
another way: it reads what a reader without lists reads, and refuses those instructions that have a
trigger or a field outside an enforced list.

* `Validation.Admits`: the instructions that a reader with the given lists accepts.
* `Filtered`: how a strict result relates to a lax one. It goes through sequences of readings.
* `Instruction.filtered_parse`: a strict reading of a text relates so to a lax one.
-/

namespace CardEffects

namespace Validation

/-- The trigger and the field of an instruction, so far as it has them, are in the enforced
lists. -/
structure Admits (validation : Validation) (instruction : Instruction) : Prop where
  trigger : ∀ word ∈ instruction.trigger, validation.AdmitsTrigger word
  field : ∀ word ∈ instruction.field, validation.AdmitsField word

/-- The fault is that of a word outside an enforced list. -/
def Refuses (validation : Validation) : Fault → Prop
  | .unknownTrigger word => ¬ validation.AdmitsTrigger word
  | .unknownField word => ¬ validation.AdmitsField word
  | _ => False

/-- The field that mana is generated in is in the list. -/
theorem admitsField_mana (validation : Validation) : validation.AdmitsField Lexicon.mana := by
  intro
  decide

end Validation

/-! ## Strict and lax results -/

/-- How a strict result relates to a lax one. Both are the same, and admitted if there is no error;
or the strict result is a refusal, and the lax one is nothing that is admitted. -/
inductive Filtered {ε α : Type} (Admits : α → Prop) (Refuses : ε → Prop) :
    Except ε α → Except ε α → Prop
  | ok {a : α} (h : Admits a) : Filtered Admits Refuses (.ok a) (.ok a)
  | error (error : ε) : Filtered Admits Refuses (.error error) (.error error)
  | refused {lax : Except ε α} {error : ε} (hrefuses : Refuses error)
      (hlax : ∀ a, lax = .ok a → ¬ Admits a) : Filtered Admits Refuses lax (.error error)

namespace Filtered

variable {ε δ α β : Type} {Admits : α → Prop} {Refuses : ε → Prop} {lax strict : Except ε α}

/-- A result is related to itself if it is admitted. -/
theorem refl {result : Except ε α} (h : ∀ a, result = .ok a → Admits a) :
    Filtered Admits Refuses result result := by
  cases result with
  | ok a => exact .ok (h a rfl)
  | error error => exact .error error

/-- A strict reading comes to those results of the lax one that are admitted. -/
theorem eq_ok_iff (h : Filtered Admits Refuses lax strict) (a : α) :
    strict = .ok a ↔ lax = .ok a ∧ Admits a := by
  rcases h with ⟨hadmits⟩ | _ | ⟨-, hlax⟩
  · constructor
    · rintro ⟨⟩
      exact ⟨rfl, hadmits⟩
    · exact And.left
  · simp
  · constructor
    · exact nofun
    · rintro ⟨hok, hadmits⟩
      exact absurd hadmits (hlax a hok)

/-- An error of a strict reading is that of the lax one, or a refusal. -/
theorem eq_error_or_refuses (h : Filtered Admits Refuses lax strict) {error : ε}
    (herror : strict = .error error) : lax = .error error ∨ Refuses error := by
  rcases h with _ | _ | ⟨hrefuses, -⟩
  · cases herror
  · exact .inl herror
  · cases herror
    exact .inr hrefuses

/-- Two readings in a row are related if the second ones are wherever the first result is admitted,
and if nothing that is admitted comes of a first result that is not. -/
theorem bind {Admits' : β → Prop} {next next' : α → Except ε β}
    (h : Filtered Admits Refuses lax strict)
    (hnext : ∀ a, Admits a → Filtered Admits' Refuses (next a) (next' a))
    (hlax : ∀ a b, next a = .ok b → Admits' b → Admits a) :
    Filtered Admits' Refuses (lax >>= next) (strict >>= next') := by
  rcases h with ⟨hadmits⟩ | ⟨error⟩ | ⟨hrefuses, hrefused⟩
  · exact hnext _ hadmits
  · exact .error error
  · -- The strict reading has stopped, while the lax one may go on to what is not admitted.
    refine .refused hrefuses fun b hb hadmits => ?_
    cases lax with
    | error error => cases hb
    | ok a => exact hrefused a rfl (hlax a b hb hadmits)

/-- Results remain filtered under a function that keeps what is admitted. -/
theorem map {Admits' : β → Prop} {f : α → β} (h : Filtered Admits Refuses lax strict)
    (hf : ∀ a, Admits' (f a) ↔ Admits a) :
    Filtered Admits' Refuses (lax.map f) (strict.map f) := by
  rcases h with ⟨hadmits⟩ | ⟨error⟩ | ⟨hrefuses, hrefused⟩
  · exact .ok ((hf _).2 hadmits)
  · exact .error error
  · refine .refused hrefuses fun b hb hadmits => ?_
    cases lax with
    | error error => cases hb
    | ok a =>
      cases hb
      exact hrefused a rfl ((hf a).1 hadmits)

theorem mapError {Refuses' : δ → Prop} {f : ε → δ} (h : Filtered Admits Refuses lax strict)
    (hf : ∀ error, Refuses error → Refuses' (f error)) :
    Filtered Admits Refuses' (lax.mapError f) (strict.mapError f) := by
  rcases h with ⟨hadmits⟩ | ⟨error⟩ | ⟨hrefuses, hrefused⟩
  · exact .ok hadmits
  · exact .error (f error)
  · refine .refused (hf _ hrefuses) fun a ha => ?_
    cases lax with
    | error error => cases ha
    | ok found =>
      cases ha
      exact hrefused a rfl

end Filtered

/-! ## The field -/

namespace Slots

variable (validation : Validation)

/-- The slots hold no field outside an enforced list. -/
def FieldAdmitted (slots : Slots) : Prop :=
  ∀ word ∈ slots.field, validation.AdmitsField word

/-- A field is taken under all settings alike, or refused for being outside an enforced list. -/
theorem filtered_takeField (tokens : List Token) :
    Filtered (fun found => validation.AdmitsField found.1) validation.Refuses
      (takeField .advisory tokens) (takeField validation tokens) := by
  have hword (word : String) (rest : List Token) :
      Filtered (fun found => validation.AdmitsField found.1) validation.Refuses
        (.ok (word, rest))
        (if validation.AdmitsField word then .ok (word, rest)
          else .error (.unknownField word)) := by
    split
    · next hadmits => exact .ok hadmits
    · next hrefused =>
      refine .refused hrefused fun found hfound => ?_
      cases hfound
      exact hrefused
  rcases tokens with _ | ⟨word | text | group, rest⟩
  · exact .error _
  · simpa [takeField] using hword word rest
  · simpa [takeField] using hword text rest
  · exact .error _

theorem filtered_modifier (tokens : List Token) :
    Filtered (FieldAdmitted validation) validation.Refuses
      (modifier .advisory tokens) (modifier validation tokens) := by
  -- What comes after the field is read in the same way, and keeps the field as it is.
  have hfield (field : String) (token : Token) (rest : List Token) (slots : Slots)
      (h : (do
        let quantity ← Quantity.ofToken token
        Except.ok { Tail.ofTokens rest with
          field := some field, value := some quantity.toValue }) = Except.ok slots) :
      FieldAdmitted validation slots ↔ validation.AdmitsField field := by
    obtain ⟨quantity, -, hslots⟩ := exists_of_bind_eq_ok h
    cases hslots
    simp [FieldAdmitted]
  refine (filtered_takeField validation tokens).bind (fun ⟨field, rest⟩ hadmits => ?_)
    fun ⟨field, rest⟩ slots hslots hadmits => ?_
  · rcases rest with _ | ⟨token, rest⟩
    · exact .error _
    · exact .refl fun slots hslots => (hfield field token rest slots hslots).2 hadmits
  · rcases rest with _ | ⟨token, rest⟩
    · cases hslots
    · exact (hfield field token rest slots hslots).1 hadmits

/-- No other action has a field outside the list. -/
theorem Shaped.fieldAdmitted {family : Action.Family} {slots : Slots} (h : slots.Shaped family)
    (hfamily : family ≠ .modifier) : FieldAdmitted validation slots := by
  intro word hword
  rcases family with _ | _ | _ | _ | _
  · exact absurd rfl hfamily
  · have hmana : slots.field = some Lexicon.mana := h.familyShape.field_eq
    rw [hmana] at hword
    cases hword
    exact validation.admitsField_mana
  · have hnone : slots.field = none := h.familyShape.field_eq
    rw [hnone] at hword
    cases hword
  · have hnone : slots.field = none := h.familyShape.field_eq
    rw [hnone] at hword
    cases hword
  · have hnone : slots = {} := h.familyShape
    rw [hnone] at hword
    cases hword

end Slots

/-! ## Whole instructions -/

namespace Instruction

variable (validation : Validation) (text : String)

/-- The instruction's field is in the list if that is enforced. -/
def FieldAdmitted (instruction : Instruction) : Prop :=
  instruction.toSlots.FieldAdmitted validation

theorem fieldAdmitted_ofAbility (ability : Ability) :
    FieldAdmitted validation (ofAbility ability text) := by
  intro word hword
  cases hword

/-- Where the list of fields is not asked for, no instruction is refused. -/
theorem filtered_of_shaped {action : Action} {family : Action.Family} {read : Except Fault Slots}
    (hfamily : family ≠ .modifier) (hread : ∀ slots, read = .ok slots → slots.Shaped family) :
    Filtered (FieldAdmitted validation) validation.Refuses
      (read.map ({ · with action, text })) (read.map ({ · with action, text })) :=
  (Filtered.refl fun slots hslots =>
    (hread slots hslots).fieldAdmitted validation hfamily).map fun _ => Iff.rfl

/-- What the head of an instruction reads is refused for its field alone. -/
theorem filtered_ofHead (args : List Token) (head : Head) :
    Filtered (FieldAdmitted validation) validation.Refuses
      (ofHead .advisory text args head) (ofHead validation text args head) := by
  rcases head with action | ability
  · rw [ofHead, ofHead]
    -- The list is asked for in one family alone.
    rcases action.family with _ | _ | _ | _ | _
    · exact (Slots.filtered_modifier validation args).map fun _ => Iff.rfl
    · exact filtered_of_shaped validation text (by decide) fun _ => Slots.shaped_generate
    · exact filtered_of_shaped validation text (by decide) fun _ => Slots.shaped_resourceCount
    · exact filtered_of_shaped validation text (by decide) fun _ => Slots.shaped_generic
    · exact (Filtered.refl fun _ _ => trivial).map fun ability =>
        iff_of_true (fieldAdmitted_ofAbility validation text ability) trivial
  · exact .ok (fieldAdmitted_ofAbility validation text ability)

/-- What tokens denote is refused for a trigger or a field outside an enforced list alone. -/
theorem filtered_ofTokens (found : List Token) :
    Filtered validation.Admits validation.Refuses
      (ofTokens .advisory text found) (ofTokens validation text found) := by
  by_cases hadmits : ∀ word ∈ (Slot.take readTrigger found).1, validation.AdmitsTrigger word
  · rcases htake : Slot.take readTrigger found with ⟨trigger, rest⟩
    rw [htake] at hadmits
    have hlax : (trigger.filter fun word => ¬ Validation.advisory.AdmitsTrigger word) = none := by
      simp
    have hstrict : (trigger.filter fun word => ¬ validation.AdmitsTrigger word) = none := by
      simpa using hadmits
    simp only [ofTokens, htake, hlax, hstrict]
    rcases rest with _ | ⟨token, args⟩
    · exact .error _
    · refine (Filtered.refl fun _ _ => trivial).bind (fun head _ => ?_) fun _ _ _ _ => trivial
      refine (filtered_ofHead validation text args head).bind (fun instruction hfield => ?_)
        fun instruction triggered htriggered hadmitted => ?_
      · exact .ok ⟨hadmits, hfield⟩
      · cases htriggered
        exact hadmitted.field
  · -- The trigger is refused before anything after it is read.
    obtain ⟨word, hword, hrefused⟩ : ∃ word ∈ (Slot.take readTrigger found).1,
        ¬ validation.AdmitsTrigger word := by
      simpa using hadmits
    have hstrict : ofTokens validation text found = .error (.unknownTrigger word) := by
      rw [ofTokens]
      rw [Option.mem_def] at hword
      simp [hword, hrefused, Option.filter]
    rw [hstrict]
    refine .refused hrefused fun instruction hinstruction hadmitted => ?_
    obtain ⟨head, untriggered, -, heq⟩ := exists_of_ofTokens hinstruction
    rw [heq] at hadmitted
    exact hrefused (hadmitted.trigger word hword)

/-- A strict reading of a text comes to what a lax one comes to, or is a refusal. -/
theorem filtered_parse :
    Filtered (fun result => ∀ instruction ∈ result, validation.Admits instruction)
      (fun error => validation.Refuses error.fault)
      (parse .advisory text) (parse validation text) := by
  rw [parse_eq, parse_eq]
  cases tokens text with
  | error error => exact .error error
  | ok found =>
    simp only [Except.bind]
    split
    · exact .ok (by simp)
    · exact ((filtered_ofTokens validation text found).map (by simp)).mapError fun _ => id

end Instruction

end CardEffects
