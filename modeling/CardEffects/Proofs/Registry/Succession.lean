import CardEffects.Proofs.Registry.NextIdentity
import CardEffects.Proofs.Registry.Provenance
import Mathlib.Data.Nat.SuccPred

/-!
# The succession of identities

The next number of a registry is told by the identities that are taken and by nothing else: it is
one beyond the greatest of them, as far as there is one beyond. The identities that a registry gives
out therefore go up from one to the next, whatever cards are registered under identities of their
own in between.

* `Registry.numbers`: the numbers of the identities that are taken.
* `Registry.given`: the identities that calls give out.
* `Registry.Reachable.toNat_nextNumber`: the next number, from the greatest of those taken.
* `Registry.Reachable.number_lt_of_registerNext`: what is given out is beyond all that is taken.
* `Registry.nextNumber_run`: both, for every run.
-/

namespace CardEffects.Registry

/-- The numbers of the identities that are taken. -/
def numbers (registry : Registry) : Set ℕ :=
  {n | ∃ id, registry.contains id = true ∧ id.number.toNat = n}

/-- The identity that a call gives out, if it registers a card under the next one. -/
def given? (registry : Registry) : Call → Option Card.Id
  | .registerNext card => (registry.registerNext card).1.toOption
  | _ => none

/-- The identities that calls give out, made one after the other. -/
def given : Registry → List Call → List Card.Id
  | _, [] => []
  | registry, call :: calls => (registry.given? call).toList ++ given (registry.after call) calls

variable {registry : Registry} {card : Card} {id other : Card.Id}

/-! ## The next number -/

theorem isEmpty_iff : registry.isEmpty = true ↔ ∀ id, registry.contains id = false := by
  rw [isEmpty, Std.ExtTreeMap.isEmpty_iff, Std.ExtTreeMap.eq_empty_iff_forall_contains]
  simp only [contains, get?, Std.ExtTreeMap.contains_eq_isSome_getElem?]

theorem numbers_nonempty_iff : registry.numbers.Nonempty ↔ registry.isEmpty = false := by
  rw [← Bool.not_eq_true, isEmpty_iff, not_forall]
  constructor
  · rintro ⟨-, id, hid, -⟩
    exact ⟨id, by simp [hid]⟩
  · rintro ⟨id, hid⟩
    exact ⟨_, id, by simpa using hid, rfl⟩

/-- Where an identity is taken there is a greatest one, as there are only so many numbers. -/
theorem exists_isGreatest_numbers (h : registry.isEmpty = false) :
    ∃ greatest, IsGreatest registry.numbers greatest := by
  have hbounded : BddAbove registry.numbers := by
    refine ⟨UInt32.size, ?_⟩
    rintro - ⟨id, -, rfl⟩
    exact Nat.le_of_lt id.number.toNat_lt_size
  exact hbounded.exists_isGreatest_of_nonempty (numbers_nonempty_iff.2 h)

/-- No number is kept back for identities that nobody has. -/
theorem Reachable.nextNumber_eq_zero (h : Reachable registry) (hempty : registry.isEmpty = true) :
    registry.nextNumber = 0 := by
  have hle : registry.nextNumber.toNat ≤ 0 :=
    (h.nextLeast 0).2 fun id hid => by
      rw [isEmpty_iff.1 hempty id] at hid
      cases hid
  exact UInt32.toNat_inj.1 (Nat.le_zero.1 hle)

/-- The next number is one beyond the greatest that is taken, or that one again if there is none
beyond. -/
theorem Reachable.toNat_nextNumber (h : Reachable registry) {greatest : ℕ}
    (hgreatest : IsGreatest registry.numbers greatest) :
    registry.nextNumber.toNat = min (2 ^ 32 - 1) (greatest + 1) := by
  obtain ⟨⟨last, hlast, rfl⟩, hupper⟩ := hgreatest
  refine eq_of_forall_ge_iff fun n => ?_
  -- The number after the greatest is the greatest of the numbers after those that are taken.
  calc registry.nextNumber.toNat ≤ n
      ↔ ∀ id, registry.contains id = true → id.next.toNat ≤ n := h.nextLeast n
    _ ↔ last.next.toNat ≤ n := by
        refine ⟨fun hall => hall last hlast, fun hle id hid => ?_⟩
        have hid : id.number.toNat ≤ last.number.toNat := hupper ⟨id, hid, rfl⟩
        rw [Card.Id.toNat_next] at hle ⊢
        omega
    _ ↔ min (2 ^ 32 - 1) (last.number.toNat + 1) ≤ n := by
        rw [Card.Id.toNat_next, Nat.min_comm]
        rfl

/-! ## One identity given out -/

/-- A card is refused the next identity as taken if and only if the last one is taken. -/
theorem Reachable.registerNext_eq_taken_iff (h : Reachable registry) :
    (registry.registerNext card).1 = .error (.taken id) ↔
      id = .last ∧ registry.contains .last = true := by
  cases hlast : registry.contains .last with
  | true =>
    rw [h.registerNext_eq_taken hlast]
    simp [eq_comm]
  | false =>
    have hfree : registry.contains ⟨registry.nextNumber⟩ = false := by
      rw [← hlast, Bool.eq_iff_iff, h.contains_next_iff]
    rcases registerNext_of_free hfree card with hok | ⟨-, source, -, herror⟩
    · simp [hok]
    · simp [herror]

/-- What is given out is the next identity, which was free and is taken from then on. -/
theorem eq_next_of_registerNext (hok : (registry.registerNext card).1 = .ok id) :
    id = ⟨registry.nextNumber⟩ ∧ registry.contains id = false ∧
      (registry.registerNext card).2.contains id = true := by
  rcases unchanged_or_registered registry { card with id := ⟨registry.nextNumber⟩ } with
    ⟨hrefused, -⟩ | ⟨instructions, hanswer, hfree, -, hafter⟩
  · exact absurd hok (hrefused id)
  · rw [registerNext, hanswer] at hok
    cases hok
    rw [registerNext, hafter]
    exact ⟨rfl, hfree, contains_insert_iff.2 (.inl rfl)⟩

/-- What is given out is beyond every identity that is taken. -/
theorem Reachable.number_lt_of_registerNext (h : Reachable registry)
    (hok : (registry.registerNext card).1 = .ok id) (hother : registry.contains other = true) :
    other.number < id.number := by
  obtain ⟨rfl, hfree, -⟩ := eq_next_of_registerNext hok
  -- The last identity is the only one with none beyond, and it is free if the next one is.
  have hne : other ≠ .last := by
    rintro rfl
    rw [Bool.eq_false_iff, ne_eq, h.contains_next_iff] at hfree
    exact hfree hother
  rw [ne_eq, Card.Id.mk_eq_last_iff] at hne
  have hsize := other.number.toNat_lt_size
  have hle := h.next_le other hother
  rw [Card.Id.toNat_next] at hle
  have hlt : other.number.toNat < registry.nextNumber.toNat := by omega
  exact UInt32.lt_iff_toNat_lt.2 hlt

/-! ## All identities given out -/

/-- An identity that is taken remains so, whatever is called. -/
theorem contains_after (h : registry.contains id = true) (call : Call) :
    (registry.after call).contains id = true := by
  obtain ⟨entry, hentry⟩ := contains_iff.1 h
  exact contains_iff.2 ⟨entry, get?_after hentry call⟩

/-- A call is given an identity if it asks for the next one and gets it. -/
theorem given?_eq_some_iff {call : Call} :
    registry.given? call = some id ↔
      ∃ card, call = .registerNext card ∧ (registry.registerNext card).1 = .ok id := by
  cases call with
  | registerNext card =>
    cases hanswer : (registry.registerNext card).1 <;> simp [given?, hanswer, Except.toOption]
  | _ => simp [given?]

/-- Whatever calls give out is beyond what was taken before them. -/
theorem Reachable.number_lt_of_mem_given (h : Reachable registry) {calls : List Call}
    (hid : id ∈ registry.given calls) (hother : registry.contains other = true) :
    other.number < id.number := by
  induction calls generalizing registry with
  | nil => cases hid
  | cons call calls ih =>
    rw [given, List.mem_append, Option.mem_toList, given?_eq_some_iff] at hid
    rcases hid with ⟨card, rfl, hok⟩ | hid
    · exact h.number_lt_of_registerNext hok hother
    · exact ih (.after call h) hid (contains_after hother call)

/-- Calls give out identities in ascending order. -/
theorem Reachable.pairwise_given (h : Reachable registry) (calls : List Call) :
    (registry.given calls).Pairwise (·.number < ·.number) := by
  induction calls generalizing registry with
  | nil => exact .nil
  | cons call calls ih =>
    have hrest := ih (.after call h)
    rw [given]
    cases hgiven : registry.given? call with
    | none => exact hrest
    | some id =>
      obtain ⟨card, rfl, hok⟩ := given?_eq_some_iff.1 hgiven
      -- It is taken when the other calls are made, and they give out what is beyond.
      have htaken := (eq_next_of_registerNext hok).2.2
      exact .cons (fun later hlater => Reachable.number_lt_of_mem_given (.after _ h) hlater htaken)
        hrest

example :
    let card : Card := { id := ⟨10⟩, name := "Island", kind := .land }
    empty.given [.registerNext card, .register card, .register { card with id := ⟨3⟩ },
      .registerNext card] = [⟨0⟩, ⟨11⟩] :=
  rfl

/-- The next number after a run is nought if no card is registered, and else one beyond the greatest
number that is taken, as far as the numbers go. So a card is refused the next identity as taken
exactly if the last one is taken; an identity that is given out is beyond all those taken before;
and the identities that a run gives out ascend. -/
theorem nextNumber_run (calls : List Call) :
    ((run calls).isEmpty = true → (run calls).nextNumber = 0) ∧
      ((run calls).isEmpty = false → ∃ greatest, IsGreatest (run calls).numbers greatest ∧
        (run calls).nextNumber.toNat = min (2 ^ 32 - 1) (greatest + 1)) ∧
      (∀ card id, ((run calls).registerNext card).1 = .error (.taken id) ↔
        id = .last ∧ (run calls).contains .last = true) ∧
      (∀ card id, ((run calls).registerNext card).1 = .ok id →
        ∀ other, (run calls).contains other = true → other.number < id.number) ∧
      (empty.given calls).Pairwise (·.number < ·.number) := by
  have hrun := reachable_run calls
  refine ⟨hrun.nextNumber_eq_zero, fun h => ?_, fun _ _ => hrun.registerNext_eq_taken_iff,
    fun _ _ hok _ => hrun.number_lt_of_registerNext hok, Reachable.empty.pairwise_given calls⟩
  obtain ⟨greatest, hgreatest⟩ := exists_isGreatest_numbers h
  exact ⟨greatest, hgreatest, hrun.toNat_nextNumber hgreatest⟩

end CardEffects.Registry
