import CardEffects.Proofs.Registry.Batch

/-!
# What the policy decides

The policy of a registry decides about broken cards and about nothing else: the cards whose effect
text is no effect. Given to a registry that refuses such cards and to one that tolerates them, a
list of cards leaves the same entries for all others. A broken card is missing from the first
registry, and stands in the second just as it was submitted: an ability that its effect text names
before the fault is not granted.

* `Registry.register_of_effect`: a card that is not broken, under either policy.
* `Registry.register_refuse`, `Registry.register_tolerate`: a broken card, under each policy.
* `Registry.policies_differ_on_broken`: what lists of cards come to under the two policies.
-/

namespace CardEffects.Registry

variable {validation : Validation} {policy : Policy} {card : Card} {cards : List Card}
  {instructions : List Instruction} {source : Effect.Error}

/-! ## One card -/

/-- A card whose text is an effect is added under both policies. -/
theorem register_of_effect (h : card.instructions validation = .ok instructions) :
    (configured validation policy).register card =
      (.ok card.id, (configured validation policy).insert card instructions) :=
  register_of_load_ok rfl (load_of_ok h)

/-- A card whose text is no effect is refused for it. -/
theorem register_refuse (h : card.instructions validation = .error source) :
    (configured validation .refuse).register card =
      (.error (.effect card.id source), configured validation .refuse) :=
  register_of_load_error rfl ((load_of_refuse rfl).trans h)

/-- A card whose text is no effect is added without instructions if that is tolerated. -/
theorem register_tolerate (h : card.instructions validation = .error source) :
    (configured validation .tolerate).register card =
      (.ok card.id, (configured validation .tolerate).insert card []) :=
  register_of_load_ok rfl (load_of_tolerate rfl h)

theorem get?_insert_self (registry : Registry) (card : Card) (instructions : List Instruction) :
    (registry.insert card instructions).get? card.id =
      some ⟨card.grant instructions, instructions⟩ := by
  rw [get?_insert, if_pos rfl]

/-- Where broken effect texts are tolerated, no card is refused. -/
theorem register_tolerate_fst (validation : Validation) (card : Card) :
    ((configured validation .tolerate).register card).1 = .ok card.id := by
  cases h : card.instructions validation with
  | ok instructions => rw [register_of_effect h]
  | error source => rw [register_tolerate h]

/-! ## Many cards -/

/-- A registry that refuses broken cards and one that tolerates them are given the same cards. The
second registers every card. A card whose effect text is an effect is registered by both, with the
same entry. A card whose effect text is no effect is refused by the first, for just that fault, and
has no entry there; in the second its entry is the card as it was submitted, without instructions.
Neither has an entry under any other identity. -/
theorem policies_differ_on_broken (validation : Validation) (hcards : (cards.map Card.id).Nodup) :
    let refusing := configured validation .refuse
    let tolerating := configured validation .tolerate
    let calls := cards.map Call.register
    (∀ (index : ℕ) card, cards[index]? = some card →
        (tolerating.answers calls)[index]? = some (some (.ok card.id)) ∧
          (∀ instructions, card.instructions validation = .ok instructions →
            (refusing.answers calls)[index]? = some (some (.ok card.id)) ∧
              (refusing.registerAll cards).get? card.id =
                some ⟨card.grant instructions, instructions⟩ ∧
              (tolerating.registerAll cards).get? card.id =
                some ⟨card.grant instructions, instructions⟩) ∧
          ∀ source, card.instructions validation = .error source →
            (refusing.answers calls)[index]? = some (some (.error (.effect card.id source))) ∧
              (refusing.registerAll cards).get? card.id = none ∧
              (tolerating.registerAll cards).get? card.id = some ⟨card, []⟩) ∧
      ∀ id, (∀ card ∈ cards, card.id ≠ id) →
        (refusing.registerAll cards).get? id = none ∧
          (tolerating.registerAll cards).get? id = none := by
  intro refusing tolerating calls
  constructor
  · intro index card hcard
    -- Each card is answered, and stands in the registry, as if it were the only one.
    have hmem : card ∈ cards := List.mem_of_getElem? hcard
    rw [getElem?_answers_registerAll hcards hcard, getElem?_answers_registerAll hcards hcard,
      get?_registerAll hcards hmem, get?_registerAll hcards hmem]
    refine ⟨by rw [register_tolerate_fst], fun instructions hread => ?_, fun source hread => ?_⟩
    · rw [register_of_effect hread, register_of_effect hread]
      exact ⟨rfl, get?_insert_self _ card instructions, get?_insert_self _ card instructions⟩
    · rw [register_refuse hread, register_tolerate hread]
      exact ⟨rfl, get?_empty card.id, get?_insert_self _ card []⟩
  · intro id hne
    rw [get?_registerAll_of_forall_ne hne, get?_registerAll_of_forall_ne hne]
    exact ⟨get?_empty id, get?_empty id⟩

/-- An ability before the fault is not granted to a card that is kept, and one that the card had is
not lost; a card after it is registered as ever. -/
theorem policies_differ_on_broken_ruin :
    let ruin : Card :=
      { id := ⟨20⟩, name := "Ruin", kind := .spell, effect := "haste; inc", abilities := [.flying] }
    let scout : Card := { id := ⟨10⟩, name := "Scout", kind := .creature 2 1, effect := "haste" }
    let source : Effect.Error := ⟨1, "inc", ⟨"inc", .missing .field⟩⟩
    let refusing := configured .advisory .refuse
    let tolerating := configured .advisory .tolerate
    ([ruin, scout].map Card.id).Nodup ∧ ruin.instructions .advisory = .error source ∧
      (refusing.answers ([ruin, scout].map .register))[0]? =
        some (some (.error (.effect ⟨20⟩ source))) ∧
      (refusing.registerAll [ruin, scout]).get? ⟨20⟩ = none ∧
      (tolerating.registerAll [ruin, scout]).get? ⟨20⟩ = some ⟨ruin, []⟩ ∧
      (refusing.registerAll [ruin, scout]).get? ⟨10⟩ =
        (tolerating.registerAll [ruin, scout]).get? ⟨10⟩ := by
  intro ruin scout source refusing tolerating
  have hcards : ([ruin, scout].map Card.id).Nodup := by decide
  have hruin : ruin.instructions .advisory = .error source := by
    dsimp only [ruin, source]
    rfl
  have hscout : scout.instructions .advisory = .ok [.ofAbility .haste "haste"] := by
    dsimp only [scout]
    rfl
  obtain ⟨heach, -⟩ := policies_differ_on_broken .advisory hcards
  obtain ⟨-, -, hbroken⟩ := heach 0 ruin rfl
  obtain ⟨-, hwhole, -⟩ := heach 1 scout rfl
  obtain ⟨hrefused, hmissing, hkept⟩ := hbroken source hruin
  obtain ⟨-, hrefusing, htolerating⟩ := hwhole _ hscout
  exact ⟨hcards, hruin, hrefused, hmissing, hkept, hrefusing.trans htolerating.symm⟩

end CardEffects.Registry
