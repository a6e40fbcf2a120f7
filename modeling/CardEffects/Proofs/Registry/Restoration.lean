import CardEffects.Proofs.Card.Grant
import CardEffects.Proofs.Card.Record
import CardEffects.Proofs.Registry.Batch
import Mathlib.Data.List.Perm.Basic

/-!
# Restoring a registry from records

The cards of a registry can be written down as records. Where the settings never change, reading
the records and registering the cards that they denote, in any order, makes the registry again,
with the number that it gives out next. The entries are the same since a card that is registered
has the abilities that its effect text grants it: registering it again grants it no more.

* `Registry.Settled`: registering a card of the registry again would give the same entry.
* `Registry.ofRecord_records`: the records of a registry denote its cards.
* `Registry.restore_records`: a registry is made again from its records.
-/

namespace CardEffects.Registry

/-- The cards of a registry, in the order of their identities. -/
def cards (registry : Registry) : List Card :=
  registry.toList.map (·.card)

/-- The records of the cards of a registry, in the order of their identities. -/
def records (registry : Registry) : List Card.Record :=
  registry.toList.map (·.card.toRecord)

/-- With the settings of the registry, each of its cards would get the instructions that it has, and
from them no abilities that it lacks. -/
def Settled (registry : Registry) : Prop :=
  ∀ id entry, registry.get? id = some entry →
    registry.load entry.card = .ok entry.instructions ∧
      entry.card.grant entry.instructions = entry.card

variable {registry fresh saved : Registry} {card : Card} {instructions : List Instruction}
  {entry : Entry} {id : Card.Id} {calls : List Call}

/-! ## The records -/

/-- The records of a registry denote its cards. -/
theorem ofRecord_records (registry : Registry) :
    registry.records.mapM Card.ofRecord = .ok registry.cards := by
  have hrecords : registry.records = registry.cards.map Card.toRecord := by
    rw [records, cards, List.map_map]
    rfl
  have hread : Card.ofRecord ∘ Card.toRecord = (pure : Card → Except Card.Record.Fault Card) :=
    funext Card.ofRecord_toRecord
  calc registry.records.mapM Card.ofRecord
      = registry.cards.mapM (pure : Card → Except Card.Record.Fault Card) := by
        rw [hrecords, List.mapM_map, hread]
    _ = pure (registry.cards.map id) := List.mapM_pure ..
    _ = .ok registry.cards := by rw [List.map_id]; rfl

/-- The cards of a registry are those of the entries under their identities. -/
theorem Keyed.mem_cards_iff (h : registry.Keyed) :
    card ∈ registry.cards ↔ ∃ entry, registry.get? card.id = some entry ∧ entry.card = card := by
  rw [cards, List.mem_map]
  constructor
  · rintro ⟨entry, hentry, rfl⟩
    exact ⟨entry, h.mem_toList_iff.1 hentry, rfl⟩
  · rintro ⟨entry, hentry, rfl⟩
    exact ⟨entry, h.mem_toList_iff.2 hentry, rfl⟩

/-- No two cards of a registry have the same identity. -/
theorem Keyed.nodup_cards (h : registry.Keyed) : (registry.cards.map Card.id).Nodup := by
  rw [cards, List.map_map]
  exact h.nodup_ids

/-! ## What is kept while cards are registered -/

/-- There is nothing to settle in an empty registry. -/
theorem settled_configured (validation : Validation) (policy : Policy) :
    (configured validation policy).Settled := by
  intro id entry hentry
  have hnone : (configured validation policy).get? id = none := get?_empty id
  rw [hnone] at hentry
  cases hentry

/-- A card that is loaded and added leaves a settled registry settled. -/
theorem Settled.insert (h : registry.Settled) (hload : registry.load card = .ok instructions) :
    (registry.insert card instructions).Settled := by
  intro id entry hentry
  rw [get?_insert] at hentry
  split at hentry
  · cases hentry
    -- The abilities of a card have no part in how it is loaded.
    exact ⟨hload, card.grant_grant instructions⟩
  · exact h id entry hentry

/-- While cards are registered the settings stay, and the cards are settled. -/
theorem settled_afterAll (validation : Validation) (policy : Policy)
    (hcalls : ∀ call ∈ calls, call.card?.isSome = true) :
    ((configured validation policy).afterAll calls).validation = validation ∧
      ((configured validation policy).afterAll calls).policy = policy ∧
      ((configured validation policy).afterAll calls).Settled := by
  refine afterAll_of_insert
    (P := fun registry => registry.validation = validation ∧ registry.policy = policy ∧
      registry.Settled) ?_ hcalls ⟨rfl, rfl, settled_configured validation policy⟩
  rintro registry card instructions - hload ⟨hvalidation, hpolicy, hsettled⟩
  exact ⟨hvalidation, hpolicy, hsettled.insert hload⟩

/-- The registry that calls lead to from given settings has a history. -/
theorem reachable_configured_afterAll (validation : Validation) (policy : Policy)
    (calls : List Call) : Reachable ((configured validation policy).afterAll calls) :=
  reachable_run (.setValidation validation :: .setPolicy policy :: calls)

/-! ## Making a registry again -/

/-- A card of a settled registry is registered with the entry that it has there, wherever the
settings are the same and its identity is free. -/
theorem Settled.register_eq (h : saved.Settled) (hentry : saved.get? id = some entry)
    (hvalidation : fresh.validation = saved.validation) (hpolicy : fresh.policy = saved.policy)
    (hfree : fresh.contains entry.card.id = false) :
    (fresh.register entry.card).1 = .ok entry.card.id ∧
      (fresh.register entry.card).2.get? entry.card.id = some entry := by
  obtain ⟨hload, hgrant⟩ := h id entry hentry
  rw [← load_congr hvalidation hpolicy] at hload
  rw [register_of_load_ok hfree hload]
  refine ⟨rfl, ?_⟩
  rw [get?_insert, if_pos rfl, hgrant]

/-- A registry is made again from its records. However it was built by registering cards, with
failures or without, its records denote cards that are all registered, in any order, by a registry
without cards that has the same settings; and that registry comes to be the one that was written
down, with every entry and with the number that it gives out next. -/
theorem restore_records (validation : Validation) (policy : Policy) (calls : List Call)
    (hcalls : ∀ call ∈ calls, call.card?.isSome = true) :
    let fresh := configured validation policy
    let saved := fresh.afterAll calls
    ∃ restored, saved.records.mapM Card.ofRecord = .ok restored ∧
      ∀ order, order.Perm restored →
        fresh.answers (order.map .register) = order.map (fun card => some (.ok card.id)) ∧
          fresh.registerAll order = saved := by
  intro fresh saved
  obtain ⟨hvalidation, hpolicy, hsettled⟩ := settled_afterAll validation policy hcalls
  have hreachable : Reachable saved := reachable_configured_afterAll validation policy calls
  refine ⟨saved.cards, ofRecord_records saved, fun order hperm => ?_⟩
  have hnodup : (order.map Card.id).Nodup :=
    (hperm.map Card.id).nodup_iff.2 hreachable.keyed.nodup_cards
  -- Alone, each card would be registered with the entry that was saved.
  have halone : ∀ card ∈ order, (fresh.register card).1 = .ok card.id ∧
      (fresh.register card).2.get? card.id = saved.get? card.id := by
    intro card hcard
    obtain ⟨entry, hentry, rfl⟩ := hreachable.keyed.mem_cards_iff.1 (hperm.mem_iff.1 hcard)
    rw [hentry]
    exact hsettled.register_eq hentry hvalidation.symm hpolicy.symm rfl
  constructor
  · rw [answers_registerAll hnodup]
    refine List.map_congr_left fun card hcard => ?_
    rw [(halone card hcard).1]
  · obtain ⟨hvalidation', hpolicy'⟩ := settings_registerAll fresh order
    refine Reachable.ext (reachable_configured_afterAll validation policy _) hreachable
      (hvalidation'.trans hvalidation.symm) (hpolicy'.trans hpolicy.symm) fun id => ?_
    by_cases hid : ∃ card ∈ order, card.id = id
    · obtain ⟨card, hcard, rfl⟩ := hid
      rw [get?_registerAll hnodup hcard, (halone card hcard).2]
    · -- An identity of no card is free in both registries.
      have hne : ∀ card ∈ order, card.id ≠ id := fun card hcard heq => hid ⟨card, hcard, heq⟩
      have hnone : saved.get? id = none := by
        rw [Option.eq_none_iff_forall_ne_some]
        intro entry hentry
        have hkey := hreachable.keyed id entry hentry
        have hmem := hreachable.keyed.mem_cards_iff.2 ⟨entry, hkey ▸ hentry, rfl⟩
        exact hne entry.card (hperm.mem_iff.2 hmem) hkey
      rw [get?_registerAll_of_forall_ne hne, hnone]
      exact get?_empty id

/-- A card that is kept although its effect text is no effect comes back with the others, and a card
that was refused does not. -/
theorem restore_records_tolerant :
    let fresh := configured .advisory .tolerate
    let calls : List Call := [
      .register { id := ⟨20⟩, name := "Ruin", kind := .spell, effect := "haste; inc" },
      .register { id := ⟨10⟩, name := "Scout", kind := .creature 2 1, effect := "haste" },
      .register { id := ⟨10⟩, name := "Island", kind := .land },
      .registerNext { id := ⟨10⟩, name := "Swamp", kind := .land, effect := "enter? haste" }]
    (∀ call ∈ calls, call.card?.isSome = true) ∧
      fresh.answers calls = [some (.ok ⟨20⟩), some (.ok ⟨10⟩), some (.error (.taken ⟨10⟩)),
        some (.ok ⟨21⟩)] ∧
      ∃ restored, (fresh.afterAll calls).records.mapM Card.ofRecord = .ok restored ∧
        ∀ order, order.Perm restored →
          fresh.answers (order.map .register) = order.map (fun card => some (.ok card.id)) ∧
            fresh.registerAll order = fresh.afterAll calls := by
  intro fresh calls
  have hcalls : ∀ call ∈ calls, call.card?.isSome = true := by decide
  refine ⟨hcalls, ?_, restore_records .advisory .tolerate calls hcalls⟩
  simp only [fresh, calls, answers, answer]
  rfl

end CardEffects.Registry
