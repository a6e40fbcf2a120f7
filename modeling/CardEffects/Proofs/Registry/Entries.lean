import CardEffects.Proofs.Registry.History
import Mathlib.Data.List.Basic
import Std.Data.DTreeMap.Internal.Lemmas

/-!
# The entries of a registry

The list of all entries and the look-up under an identity show the same entries, each once, as long
as every card stands under its own identity.

* `Registry.Keyed`: every card stands under its own identity.
* `Registry.mem_toList_iff`, `Registry.nodup_ids`: the entries that are listed are those that are
  looked up, and each identity is listed once.
-/

namespace CardEffects.Registry

/-- The values of a map are those of its pairs of keys and values. -/
theorem values_eq_map_snd {α β : Type} {cmp : α → α → Ordering} [Std.TransCmp cmp]
    (map : Std.ExtTreeMap α β cmp) : map.values = map.toList.map Prod.snd := by
  obtain ⟨inner⟩ := map
  induction inner using Std.ExtDTreeMap.inductionOn with
  | mk tree =>
    show tree.inner.values = (Std.DTreeMap.Internal.Impl.Const.toList tree.inner).map Prod.snd
    rw [Std.DTreeMap.Internal.Impl.values_eq_map_snd,
      Std.DTreeMap.Internal.Impl.Const.toList_eq_toListModel_map, List.map_map]
    rfl

variable {registry : Registry}

/-- There are as many entries in the list as there are cards. -/
theorem length_toList (registry : Registry) : registry.toList.length = registry.size := by
  rw [toList, values_eq_map_snd, List.length_map, Std.ExtTreeMap.length_toList, size]

/-- An identity is taken if there is an entry under it. -/
theorem contains_iff {id : Card.Id} :
    registry.contains id = true ↔ ∃ entry, registry.get? id = some entry :=
  Option.isSome_iff_exists

/-- A new entry takes the identity of its card, and the others remain as they were. -/
theorem contains_insert_iff {card : Card} {instructions : List Instruction} {id : Card.Id} :
    (registry.insert card instructions).contains id = true ↔
      card.id = id ∨ registry.contains id = true := by
  rw [contains, get?_insert, contains]
  split
  · next h => simp [h]
  · next h => simp [h]

/-- Every card stands under its own identity. -/
def Keyed (registry : Registry) : Prop :=
  ∀ id entry, registry.get? id = some entry → entry.card.id = id

/-- Every change keeps each entry under the identity of its card. -/
theorem Change.keyed {after : Registry} (h : Change registry after) (hkeyed : registry.Keyed) :
    after.Keyed := by
  cases h with
  | settings validation policy => exact hkeyed
  | insert hfree hload =>
    intro id entry hentry
    rw [get?_insert] at hentry
    split at hentry
    · next hid =>
      cases hentry
      exact hid
    · exact hkeyed id entry hentry

/-- In a registry with a history every card stands under its own identity. -/
theorem Reachable.keyed (h : Reachable registry) : registry.Keyed :=
  h.of_change (by simp [Keyed]) Change.keyed

namespace Keyed

variable (h : registry.Keyed)

include h

/-- The entries that are listed are those that can be looked up. -/
theorem mem_toList_iff {entry : Entry} :
    entry ∈ registry.toList ↔ registry.get? entry.card.id = some entry := by
  rw [toList, values_eq_map_snd, List.mem_map, get?]
  constructor
  · rintro ⟨⟨id, found⟩, hmem, rfl⟩
    rw [Std.ExtTreeMap.mem_toList_iff_getElem?_eq_some] at hmem
    rw [h id found hmem]
    exact hmem
  · intro hentry
    exact ⟨⟨entry.card.id, entry⟩,
      Std.ExtTreeMap.mem_toList_iff_getElem?_eq_some.2 hentry, rfl⟩

/-- The identities of the listed cards are those that are taken. -/
theorem mem_ids_iff {id : Card.Id} :
    id ∈ registry.toList.map (·.card.id) ↔ registry.contains id = true := by
  rw [List.mem_map, contains_iff]
  constructor
  · rintro ⟨entry, hmem, rfl⟩
    exact ⟨entry, h.mem_toList_iff.1 hmem⟩
  · rintro ⟨entry, hentry⟩
    have hid := h id entry hentry
    refine ⟨entry, h.mem_toList_iff.2 ?_, hid⟩
    rw [hid]
    exact hentry

/-- No two listed cards have the same identity. -/
theorem nodup_ids : (registry.toList.map (·.card.id)).Nodup := by
  have hkeys : registry.toList.map (·.card.id) = registry.entries.keys := by
    rw [toList, values_eq_map_snd, List.map_map, ← Std.ExtTreeMap.map_fst_toList_eq_keys]
    refine List.map_congr_left fun pair hpair => ?_
    exact h pair.1 pair.2 (Std.ExtTreeMap.mem_toList_iff_getElem?_eq_some.1 hpair)
  rw [hkeys]
  refine Std.ExtTreeMap.distinct_keys.imp fun hne => ?_
  simpa using hne

end Keyed

end CardEffects.Registry
