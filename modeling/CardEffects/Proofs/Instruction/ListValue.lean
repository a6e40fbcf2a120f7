import CardEffects.Proofs.Instruction.Alternatives
import CardEffects.Proofs.Instruction.Filling

/-!
# List values

The value slot of an instruction holds a list if it is an action to generate mana with colours, or a
general action whose value is a bare word with a slash. In both cases one token is cut at its
slashes, as it is where a target has several kinds.

* `Filling.list_of_value_eq`: the token that a list value is read from.
* `alternatives_lossless`: nothing is lost where words are cut at slashes, and what a target admits
  can be read off its word.
-/

namespace CardEffects

namespace Slots

/-- If a bare word is a list, it is the list of its alternatives. -/
theorem eq_alternatives_of_literalValue {word : String} {items : List String}
    (h : (literalValue word).toOption = some (.list items)) : items = alternatives word := by
  rw [literalValue] at h
  split at h
  · cases hinteger : readInteger word <;> rw [hinteger] at h <;> cases h
  · split at h
    · cases h
      rfl
    · cases h

end Slots

namespace Filling

variable {filling : Filling} {family : Action.Family} {items : List String}

/-- A list value is made of the alternatives of one token: the colours of mana that is generated, or
a bare word in the value slot of a general action. -/
theorem list_of_value_eq (h : (filling.slots family).value = some (.list items)) :
    ∃ word, items = alternatives word ∧
      (family = .generate ∧ filling.text .colours = some word ∨
        family = .generic ∧ filling .value = some (.bare word)) := by
  cases family with
  | modifier =>
    -- Here the value is a quantity, which is no list.
    obtain ⟨_ | _, -, hquantity⟩ := Option.map_eq_some_iff.1 h <;> cases hquantity
  | generate =>
    cases hcolours : filling.text .colours with
    | none =>
      simp only [slots, hcolours] at h
      obtain ⟨group, -, hgroup⟩ := Option.map_eq_some_iff.1 h
      cases hgroup
    | some word =>
      simp only [slots, hcolours, Option.some.injEq, Value.list.injEq] at h
      exact ⟨word, h.symm, .inl ⟨rfl, rfl⟩⟩
  | resourceCount =>
    obtain ⟨group, -, hgroup⟩ := Option.map_eq_some_iff.1 h
    cases hgroup
  | generic =>
    obtain ⟨token, htoken, hvalue⟩ := Option.bind_eq_some_iff.1 h
    cases token with
    | bare word =>
      exact ⟨word, Slots.eq_alternatives_of_literalValue hvalue, .inr ⟨rfl, htoken⟩⟩
    | quoted text => cases hvalue
    | group group => cases hvalue
  | static => cases h

end Filling

/-- Nothing is lost where a word is cut at its slashes. The kinds of the target that a word denotes
have no slash, are one more than the slashes of the word, and joined by slashes are the word; so are
the items of every list value that is read from a text, with the word of the colours or of the
value. A target is a choice of kinds just when its word has a slash, and it admits a kind just when
that has no slash and is the whole word, its beginning up to a slash, its end from a slash on, or
what stands between two of its slashes. -/
theorem alternatives_lossless :
    (∀ word : String,
      Text.Splits '/' word (Target.ofWord word).kinds ∧
      ((∃ kinds, Target.ofWord word = .anyOf kinds) ↔ '/' ∈ word.toList) ∧
      ∀ kind : String, (Target.ofWord word).Admits kind ↔ '/' ∉ kind.toList ∧
        (word = kind ∨ (∃ after, word = kind ++ "/" ++ after) ∨
          (∃ before, word = before ++ "/" ++ kind) ∨
          ∃ before after, word = before ++ "/" ++ kind ++ "/" ++ after)) ∧
    ∀ validation text instruction items,
      Instruction.parse validation text = .ok (some instruction) →
      instruction.value = some (.list items) →
      ∃ word, Text.Splits '/' word items ∧
        (instruction.action.family = .generate ∧
            (Instruction.filling .generate text).text .colours = some word ∨
          instruction.action.family = .generic ∧
            Instruction.filling .generic text .value = some (.bare word)) := by
  refine ⟨fun word => ⟨?_, Target.exists_ofWord_eq_anyOf_iff, fun kind => Target.admits_ofWord_iff⟩,
    fun validation text instruction items hparse hvalue => ?_⟩
  · rw [Target.kinds_ofWord]
    exact Text.splits_segments word
  · rw [Instruction.slots_eq_of_parse hparse] at hvalue
    obtain ⟨word, rfl, hword⟩ := Filling.list_of_value_eq hvalue
    exact ⟨word, Text.splits_segments word, hword.imp (fun ⟨hfamily, hword⟩ =>
      ⟨hfamily, hfamily ▸ hword⟩) fun ⟨hfamily, hword⟩ => ⟨hfamily, hfamily ▸ hword⟩⟩

/-- A doubled slash leaves an empty colour between the others. -/
theorem alternatives_lossless_colours :
    ∃ instruction, Instruction.parse .strict "gen 2 red//blue" = .ok (some instruction) ∧
      instruction.value = some (.list ["red", "", "blue"]) ∧
      Text.Splits '/' "red//blue" ["red", "", "blue"] ∧ (Target.ofWord "red//blue").Admits "" := by
  have hparse : Instruction.parse .strict "gen 2 red//blue" = .ok (some
      { action := .generate
        field := some "mana"
        value := some (.list ["red", "", "blue"])
        amount := some 2
        text := "gen 2 red//blue" }) := rfl
  obtain ⟨hwords, hlists⟩ := alternatives_lossless
  obtain ⟨word, hsplits, ⟨-, hcolours⟩ | ⟨hgeneric, -⟩⟩ := hlists _ _ _ _ hparse rfl
  · have hword : word = "red//blue" := Option.some.inj (hcolours.symm.trans (by decide))
    rw [hword] at hsplits
    refine ⟨_, hparse, rfl, hsplits, ((hwords _).2.2 "").2 ⟨by decide, ?_⟩⟩
    exact .inr (.inr (.inr ⟨"red", "blue", rfl⟩))
  · cases hgeneric

end CardEffects
