import CardEffects.Json
import Mathlib.Data.List.Basic
import Mathlib.Data.List.Nodup
import Mathlib.Data.List.Perm.Basic

/-!
# Objects that are read alike

The members of an object may be written in any order. Members that a structure does not read may be
added to them, and those whose value may be absent may be left out where they are null. None of this
is seen by a structure that looks its members up by their keys.

* `JsonMembers.Rearranges`: the changes above, all at once.
* `JsonMembers.Rearranges.lookup_cases`: what they do to one look-up.
* `JsonMembers.Rearranges.required_eq`, `JsonMembers.Rearranges.optional_eq`: they change no member
  that is read.
-/

namespace CardEffects.JsonMembers

open JsonCodec

/-- No two members have the same key. -/
def DistinctKeys (members : JsonMembers) : Prop :=
  (members.map Prod.fst).Nodup

/-- The second object has the members of the first in any order, but that members with optional keys
may be left out where they are null, and that members with keys that are not read may be added. -/
def Rearranges (keys optionalKeys : List String) (before after : JsonMembers) : Prop :=
  ∃ kept dropped added : JsonMembers,
    before.Perm (kept ++ dropped) ∧ after.Perm (kept ++ added) ∧
      (∀ member ∈ dropped, member.1 ∈ optionalKeys ∧ member.2 = .null) ∧
      ∀ member ∈ added, member.1 ∉ keys

variable {members before after : JsonMembers} {keys optionalKeys : List String} {key : String}
  {json : Json}

/-- What is found under a key is a member. -/
theorem mem_of_lookup (h : members.lookup key = some json) : (key, json) ∈ members := by
  obtain ⟨first, rest, rfl, -⟩ := List.lookup_eq_some_iff.1 h
  simp

/-- Under the key of a member something is found. -/
theorem exists_lookup_of_mem (h : (key, json) ∈ members) :
    ∃ json', members.lookup key = some json' :=
  Option.isSome_iff_exists.1 (List.lookup_isSome_iff.2 ⟨(key, json), h, beq_self_eq_true key⟩)

/-- If no key is used twice, a member is what is found under its key. -/
theorem DistinctKeys.lookup_of_mem (h : members.DistinctKeys) (hmem : (key, json) ∈ members) :
    members.lookup key = some json := by
  obtain ⟨json', hjson'⟩ := exists_lookup_of_mem hmem
  have hsame := List.inj_on_of_nodup_map h (mem_of_lookup hjson') hmem rfl
  rw [hjson', (Prod.mk.inj hsame).2]

namespace Rearranges

/-- A key that is read has the same value in both objects, unless it is optional, null in the first
object and missing in the second. -/
theorem lookup_cases (h : Rearranges keys optionalKeys before after)
    (hdistinct : before.DistinctKeys) (hkey : key ∈ keys) :
    after.lookup key = before.lookup key ∨
      key ∈ optionalKeys ∧ before.lookup key = some .null ∧ after.lookup key = none := by
  obtain ⟨kept, dropped, added, hbefore, hafter, hdropped, hadded⟩ := h
  have hmem {json : Json} : (key, json) ∈ before ↔ (key, json) ∈ kept ∨ (key, json) ∈ dropped := by
    rw [hbefore.mem_iff, List.mem_append]
  have hmem' {json : Json} : (key, json) ∈ after ↔ (key, json) ∈ kept := by
    rw [hafter.mem_iff, List.mem_append]
    exact or_iff_left fun h => hadded _ h hkey
  cases hlookup' : after.lookup key with
  | some json =>
    have hjson := hmem.2 (.inl (hmem'.1 (mem_of_lookup hlookup')))
    exact .inl (hdistinct.lookup_of_mem hjson).symm
  | none =>
    cases hlookup : before.lookup key with
    | none => exact .inl rfl
    | some json =>
      -- The member is missing from the second object, so it was not kept.
      rcases hmem.1 (mem_of_lookup hlookup) with hkept | hjson
      · obtain ⟨json', hjson'⟩ := exists_lookup_of_mem (hmem'.2 hkept)
        rw [hlookup'] at hjson'
        cases hjson'
      · obtain ⟨hoptional, hnull⟩ := hdropped _ hjson
        exact .inr ⟨hoptional, congrArg some hnull, rfl⟩

variable {α : Type} [JsonCodec α]

/-- A required member is the same after members are rearranged. -/
theorem required_eq (h : Rearranges keys optionalKeys before after)
    (hdistinct : before.DistinctKeys) (hkey : key ∈ keys) (hrequired : key ∉ optionalKeys) :
    (after.required key : Option α) = before.required key := by
  rcases h.lookup_cases hdistinct hkey with hlookup | ⟨hoptional, -⟩
  · rw [required, required, hlookup]
  · exact absurd hoptional hrequired

theorem optional_eq (h : Rearranges keys optionalKeys before after)
    (hdistinct : before.DistinctKeys) (hkey : key ∈ keys) :
    (after.optional key : Option (Option α)) = before.optional key := by
  rcases h.lookup_cases hdistinct hkey with hlookup | ⟨-, hnull, hmissing⟩
  · rw [optional, optional, hlookup]
  · rw [optional, optional, hnull, hmissing]

end Rearranges

end CardEffects.JsonMembers
