import CardEffects.Proofs.Registry.History
import Mathlib.Data.List.Induction

/-!
# Runs of a registry

A run is a list of calls, made one after the other. It leaves a registry and one answer for each
call. This module says what a single call can do and which settings are in force after a run, which
depends on the calls that set them and on nothing else.

* `Registry.afterAll`, `Registry.answers`: what a run leaves and what it answers.
* `Registry.run`: the registry that a run leaves of the empty one.
* `Registry.configured`: the registry without cards and with given settings.
* `Registry.after_cases`: what a single call can do.
* `Registry.validation_run`, `Registry.policy_run`: the settings in force after a run.
-/

namespace CardEffects.Registry

namespace Call

/-- The card that a call is to register, if it is to register one. -/
def card? : Call → Option Card
  | register card | registerNext card => some card
  | setValidation _ | setPolicy _ => none

/-- The way to read effect texts that a call sets. -/
def validation? : Call → Option Validation
  | setValidation validation => some validation
  | _ => none

/-- The policy that a call sets. -/
def policy? : Call → Option Policy
  | setPolicy policy => some policy
  | _ => none

end Call

/-- What a call answers for the card that it is to register. -/
def answer (registry : Registry) : Call → Option (Except Refusal Card.Id)
  | .register card => some (registry.register card).1
  | .registerNext card => some (registry.registerNext card).1
  | _ => none

/-- The registry that calls leave, made one after the other. -/
def afterAll (registry : Registry) (calls : List Call) : Registry :=
  calls.foldl after registry

/-- What calls answer, made one after the other. -/
def answers : Registry → List Call → List (Option (Except Refusal Card.Id))
  | _, [] => []
  | registry, call :: calls => registry.answer call :: answers (registry.after call) calls

/-- The registry that calls leave of the empty one. -/
def run (calls : List Call) : Registry :=
  empty.afterAll calls

/-- The registry without cards and with the given settings. -/
def configured (validation : Validation) (policy : Policy) : Registry :=
  (empty.setValidation validation).setPolicy policy

/-- The way to read effect texts that calls leave in force: the last one that is set. -/
def validationInForce (calls : List Call) : Validation :=
  (calls.filterMap Call.validation?).getLast?.getD .advisory

/-- The policy that calls leave in force: the last one that is set. -/
def policyInForce (calls : List Call) : Policy :=
  (calls.filterMap Call.policy?).getLast?.getD .refuse

variable {registry : Registry}

@[simp]
theorem afterAll_nil (registry : Registry) : registry.afterAll [] = registry := rfl

@[simp]
theorem afterAll_cons (registry : Registry) (call : Call) (calls : List Call) :
    registry.afterAll (call :: calls) = (registry.after call).afterAll calls := rfl

@[simp]
theorem afterAll_append (registry : Registry) (first second : List Call) :
    registry.afterAll (first ++ second) = (registry.afterAll first).afterAll second :=
  List.foldl_append

/-- Each call is answered by the registry that the calls before it leave. -/
theorem getElem?_answers (registry : Registry) (calls : List Call) (index : ℕ) :
    (registry.answers calls)[index]? =
      calls[index]?.map (registry.afterAll (calls.take index)).answer := by
  induction calls generalizing registry index with
  | nil => simp [answers]
  | cons call calls ih =>
    cases index with
    | zero => simp [answers]
    | succ index => simp [answers, ih]

/-- A run with one more call leaves what the call makes of the registry before it. -/
theorem run_append_singleton (calls : List Call) (call : Call) :
    run (calls ++ [call]) = (run calls).after call :=
  afterAll_append empty calls [call]

/-- A run can be taken apart at each of its calls. -/
theorem run_eq_of_getElem? {calls : List Call} {index : ℕ} {call : Call}
    (h : calls[index]? = some call) :
    run calls = ((run (calls.take index)).after call).afterAll (calls.drop (index + 1)) := by
  obtain ⟨hlt, hcall⟩ := List.getElem?_eq_some_iff.1 h
  have hcalls : calls = calls.take index ++ call :: calls.drop (index + 1) := by
    rw [← hcall, ← List.drop_eq_getElem_cons hlt, List.take_append_drop]
  calc run calls
      = run (calls.take index ++ call :: calls.drop (index + 1)) := by rw [← hcalls]
    _ = _ := afterAll_append empty _ _

/-- What calls leave of a registry with a history has a history. -/
theorem Reachable.afterAll (h : Reachable registry) (calls : List Call) :
    Reachable (registry.afterAll calls) := by
  induction calls generalizing registry with
  | nil => exact h
  | cons call calls ih => exact ih (.after call h)

/-- The registry that a run leaves has a history. -/
theorem reachable_run (calls : List Call) : Reachable (run calls) :=
  Reachable.empty.afterAll calls

/-! ## A single call -/

/-- A call that is to register a card adds it under an identity that was free, or leaves the
registry as it was. Any other call sets a setting. -/
theorem after_cases (registry : Registry) (call : Call) :
    ((∀ id, registry.answer call ≠ some (.ok id)) ∧
        registry.after call = { registry with
          validation := call.validation?.getD registry.validation
          policy := call.policy?.getD registry.policy }) ∨
      ∃ card id instructions, call.card? = some card ∧ (call = .register card → id = card.id) ∧
        registry.answer call = some (.ok id) ∧ registry.contains id = false ∧
        registry.load card = .ok instructions ∧
        registry.after call = registry.insert { card with id } instructions := by
  -- Both calls for a card come to registering one, under its own identity or under the next.
  rcases call with validation | policy | card | card
  · exact .inl ⟨nofun, rfl⟩
  · exact .inl ⟨nofun, rfl⟩
  · rcases unchanged_or_registered registry card with
      ⟨hanswer, hafter⟩ | ⟨instructions, hanswer, hfree, hload, hafter⟩
    · exact .inl ⟨fun id hid => hanswer id (Option.some.inj hid), hafter⟩
    · exact .inr ⟨card, card.id, instructions, rfl, fun _ => rfl, congrArg some hanswer, hfree,
        hload, hafter⟩
  · rcases unchanged_or_registered registry { card with id := ⟨registry.nextNumber⟩ } with
      ⟨hanswer, hafter⟩ | ⟨instructions, hanswer, hfree, hload, hafter⟩
    · exact .inl ⟨fun id hid => hanswer id (Option.some.inj hid), hafter⟩
    · exact .inr ⟨card, _, instructions, rfl, nofun, congrArg some hanswer, hfree, hload, hafter⟩

/-- A call that is to register a card and does not register it changes nothing. -/
theorem after_eq_self {call : Call} (hcall : call.card?.isSome = true)
    (hanswer : ∀ id, registry.answer call ≠ some (.ok id)) : registry.after call = registry := by
  rcases after_cases registry call with ⟨-, hafter⟩ | ⟨_, id, _, -, -, hok, -⟩
  · -- Such a call sets nothing.
    rw [hafter]
    rcases call with _ | _ | _ | _
    · cases hcall
    · cases hcall
    · rfl
    · rfl
  · exact absurd hok (hanswer id)

/-- What every added card keeps is kept by calls that are all to register cards. -/
theorem afterAll_of_insert {P : Registry → Prop}
    (hinsert : ∀ {registry : Registry} {card : Card} {instructions : List Instruction},
      registry.contains card.id = false → registry.load card = .ok instructions → P registry →
        P (registry.insert card instructions))
    {calls : List Call} (hcalls : ∀ call ∈ calls, call.card?.isSome = true) (h : P registry) :
    P (registry.afterAll calls) := by
  induction calls generalizing registry with
  | nil => exact h
  | cons call calls ih =>
    obtain ⟨hcall, hcalls⟩ := List.forall_mem_cons.1 hcalls
    refine ih hcalls ?_
    rcases after_cases registry call with
      ⟨hrefused, -⟩ | ⟨card, id, instructions, -, -, -, hfree, hload, hafter⟩
    · rw [after_eq_self hcall hrefused]
      exact h
    · rw [hafter]
      exact hinsert hfree hload h

/-! ## The settings in force -/

/-- Registering a card leaves the settings alone. -/
theorem settings_register (registry : Registry) (card : Card) :
    (registry.register card).2.validation = registry.validation ∧
      (registry.register card).2.policy = registry.policy := by
  rcases unchanged_or_registered registry card with ⟨-, h⟩ | ⟨instructions, -, -, -, h⟩
  · rw [h]
    exact ⟨rfl, rfl⟩
  · rw [h]
    exact ⟨rfl, rfl⟩

/-- The way in which effect texts are read changes only if a call sets it. -/
theorem validation_after (registry : Registry) (call : Call) :
    (registry.after call).validation = call.validation?.getD registry.validation := by
  rcases call with validation | policy | card | card
  · rfl
  · rfl
  · exact (settings_register registry card).1
  · exact (settings_register registry _).1

theorem policy_after (registry : Registry) (call : Call) :
    (registry.after call).policy = call.policy?.getD registry.policy := by
  rcases call with validation | policy | card | card
  · rfl
  · rfl
  · exact (settings_register registry card).2
  · exact (settings_register registry _).2

/-- A setting that each call sets or leaves is, after a run, what it was last set to. -/
theorem setting_afterAll {σ : Type} {setting : Registry → σ} {set? : Call → Option σ}
    (hafter : ∀ registry call, setting (registry.after call) = (set? call).getD (setting registry))
    (registry : Registry) (calls : List Call) :
    setting (registry.afterAll calls) =
      (calls.filterMap set?).getLast?.getD (setting registry) := by
  induction calls using List.reverseRecOn with
  | nil => rfl
  | append_singleton calls call ih =>
    rw [afterAll_append, afterAll_cons, afterAll_nil, hafter, ih, List.filterMap_append]
    -- The last call sets it, or leaves it as the calls before have set it.
    cases hset : set? call with
    | none => simp [hset]
    | some value => simp [hset]

/-- After a run effect texts are read as was set last. -/
theorem validation_run (calls : List Call) : (run calls).validation = validationInForce calls :=
  setting_afterAll validation_after empty calls

/-- After a run the policy is the one that was set last. -/
theorem policy_run (calls : List Call) : (run calls).policy = policyInForce calls :=
  setting_afterAll policy_after empty calls

end CardEffects.Registry
