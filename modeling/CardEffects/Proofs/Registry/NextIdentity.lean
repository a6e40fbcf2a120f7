import CardEffects.Proofs.Registry.Entries

/-!
# The next identity

A registry gives out identities from a number that is beyond every identity taken so far, whether it
was given out or came with its card. There is nothing beyond the last identity: once that is taken
the number stays there, and no card can be registered under the next identity any more, however many
identities below are free.

* `Card.Id.last`: the last identity.
* `Registry.Reachable.nextLeast`: the next number is beyond every identity that is taken, and no
  further on than that.
* `Registry.Reachable.contains_next_iff`: the next identity is taken if and only if the last one is.
* `Registry.registerNext_of_reachable`: what registering under the next identity comes to.
-/

namespace CardEffects

namespace Card.Id

/-- The last identity, of which there is none beyond. -/
def last : Card.Id := ⟨4294967295⟩

variable {number : UInt32}

/-- The identity after another has the next number, unless that was the last. -/
theorem toNat_next : (next ⟨number⟩).toNat = min (number.toNat + 1) (UInt32.size - 1) := by
  have hlt := number.toNat_lt_size
  simp only [next]
  split
  · next hsucc =>
    rw [UInt32.toNat_add, UInt32.toNat_one, Nat.mod_eq_of_lt hsucc]
    omega
  · omega

/-- The last identity is the one with the greatest number. -/
theorem mk_eq_last_iff : (⟨number⟩ : Card.Id) = last ↔ number.toNat = UInt32.size - 1 := by
  rw [last, mk.injEq, ← UInt32.toNat_inj]
  rfl

end Card.Id

namespace Registry

variable {registry : Registry} {card : Card} {instructions : List Instruction}

/-- A new entry moves the next number behind its identity, if it is not there yet. -/
theorem toNat_nextNumber_insert :
    (registry.insert card instructions).nextNumber.toNat =
      max registry.nextNumber.toNat card.id.next.toNat := by
  have hmax : (registry.insert card instructions).nextNumber =
      if registry.nextNumber ≤ card.id.next then card.id.next else registry.nextNumber := rfl
  rw [hmax]
  split
  · next h => exact (Nat.max_eq_right (UInt32.le_iff_toNat_le.1 h)).symm
  · next h =>
    rw [UInt32.le_iff_toNat_le] at h
    exact (Nat.max_eq_left (by omega)).symm

/-- The next number is the least that is not below the number after an identity that is taken. -/
def NextLeast (registry : Registry) : Prop :=
  ∀ n, registry.nextNumber.toNat ≤ n ↔
    ∀ id, registry.contains id = true → id.next.toNat ≤ n

theorem nextLeast_empty : NextLeast empty := by
  intro n
  simp [empty, contains, get?]

/-- Setting the settings moves neither the cards nor the next number, and a card that is added moves
the next number beyond itself if it is not yet there. -/
theorem Change.nextLeast {after : Registry} (h : Change registry after)
    (hleast : registry.NextLeast) : after.NextLeast := by
  cases h with
  | settings validation policy => exact hleast
  | @insert card instructions hfree hload =>
    intro n
    calc (registry.insert card instructions).nextNumber.toNat ≤ n
        ↔ registry.nextNumber.toNat ≤ n ∧ card.id.next.toNat ≤ n := by
          rw [toNat_nextNumber_insert, Nat.max_le]
      _ ↔ (∀ id, registry.contains id = true → id.next.toNat ≤ n) ∧ card.id.next.toNat ≤ n := by
          rw [hleast n]
      _ ↔ ∀ id, (registry.insert card instructions).contains id = true → id.next.toNat ≤ n := by
          simp only [contains_insert_iff, or_imp, forall_and, forall_eq', and_comm]

/-- In a registry with a history the next number is exactly as far on as the identities that are
taken ask for. -/
theorem Reachable.nextLeast (h : Reachable registry) : registry.NextLeast :=
  h.of_change nextLeast_empty Change.nextLeast

/-- The next number is not below the number after any identity that is taken. -/
theorem Reachable.next_le (h : Reachable registry) (id : Card.Id)
    (hid : registry.contains id = true) : id.next.toNat ≤ registry.nextNumber.toNat :=
  (h.nextLeast _).1 (Nat.le_refl _) id hid

/-- Once the last identity is taken it stays the next one. -/
theorem Reachable.next_eq_last (h : Reachable registry) (hlast : registry.contains .last = true) :
    (⟨registry.nextNumber⟩ : Card.Id) = .last := by
  have hlt := registry.nextNumber.toNat_lt_size
  -- The number after the last one is the last one again.
  have hle : UInt32.size - 1 ≤ registry.nextNumber.toNat := h.next_le .last hlast
  exact Card.Id.mk_eq_last_iff.2 (by omega)

/-- The next identity is taken if and only if the last one is. -/
theorem Reachable.contains_next_iff (h : Reachable registry) :
    registry.contains ⟨registry.nextNumber⟩ = true ↔ registry.contains .last = true := by
  constructor
  · intro hnext
    -- It is not beyond itself, which only the last identity is not.
    have hle := h.next_le _ hnext
    rw [Card.Id.toNat_next] at hle
    have hlt := registry.nextNumber.toNat_lt_size
    have hlast : (⟨registry.nextNumber⟩ : Card.Id) = .last := Card.Id.mk_eq_last_iff.2 (by omega)
    rw [← hlast]
    exact hnext
  · intro hlast
    rw [h.next_eq_last hlast]
    exact hlast

/-- A card fails to load only where broken effect texts are not tolerated, and for its effect
text. -/
theorem refuse_of_load_error {source : Effect.Error} (h : registry.load card = .error source) :
    registry.policy = .refuse ∧ card.instructions registry.validation = .error source := by
  cases hpolicy : registry.policy with
  | refuse =>
    rw [load_of_refuse hpolicy] at h
    exact ⟨rfl, h⟩
  | tolerate =>
    -- Whether or not the text is an effect, the card is loaded here.
    cases hread : card.instructions registry.validation with
    | ok instructions =>
      rw [load_of_ok hread] at h
      cases h
    | error source =>
      rw [load_of_tolerate hpolicy hread] at h
      cases h

/-- Once the last identity is taken, no card is registered under the next. -/
theorem Reachable.registerNext_eq_taken (h : Reachable registry)
    (hlast : registry.contains .last = true) :
    registry.registerNext card = (.error (.taken .last), registry) := by
  rw [registerNext, h.next_eq_last hlast]
  exact register_of_contains hlast

/-- Under a free next identity a card is registered, or it is refused for its effect text. -/
theorem registerNext_of_free (hfree : registry.contains ⟨registry.nextNumber⟩ = false)
    (card : Card) :
    (registry.registerNext card).1 = .ok ⟨registry.nextNumber⟩ ∨
      registry.policy = .refuse ∧ ∃ source,
        card.instructions registry.validation = .error source ∧
        (registry.registerNext card).1 = .error (.effect ⟨registry.nextNumber⟩ source) := by
  rcases register_cases registry { card with id := ⟨registry.nextNumber⟩ } with
    ⟨htaken, -⟩ | ⟨-, ⟨instructions, -, hregister⟩ | ⟨source, hload, hregister⟩⟩
  · rw [hfree] at htaken
    cases htaken
  · left
    rw [registerNext, hregister]
  · -- The effect text is that of the card as it was given: only the identity is another one.
    obtain ⟨hpolicy, hsource⟩ := refuse_of_load_error hload
    right
    refine ⟨hpolicy, source, hsource, ?_⟩
    rw [registerNext, hregister]

/-- What registering a card under the next identity comes to in a registry with a history. The
identity is taken if and only if the last one is, and then it is that one. As long as the last
identity is free, so is the next, and the card is registered under it, or is refused for its effect
text by a registry that does refuse cards. -/
theorem registerNext_of_reachable (h : Reachable registry) (card : Card) :
    (∀ id, (registry.registerNext card).1 = .error (.taken id) ↔
        id = .last ∧ registry.contains .last = true) ∧
      (registry.contains .last = false →
        registry.contains ⟨registry.nextNumber⟩ = false ∧
          ((registry.registerNext card).1 = .ok ⟨registry.nextNumber⟩ ∨
            registry.policy = .refuse ∧ ∃ source,
              card.instructions registry.validation = .error source ∧
              (registry.registerNext card).1 = .error (.effect ⟨registry.nextNumber⟩ source))) := by
  cases hlast : registry.contains .last with
  | true =>
    refine ⟨fun id => ?_, nofun⟩
    rw [h.registerNext_eq_taken hlast]
    simp [eq_comm]
  | false =>
    have hfree : registry.contains ⟨registry.nextNumber⟩ = false := by
      rw [Bool.eq_false_iff, ne_eq, h.contains_next_iff, hlast]
      exact Bool.false_ne_true
    have houtcome := registerNext_of_free hfree card
    refine ⟨fun id => ?_, fun _ => ⟨hfree, houtcome⟩⟩
    -- Neither of the two outcomes is about an identity that is taken.
    rcases houtcome with hok | ⟨-, source, -, herror⟩
    · simp [hok]
    · simp [herror]

/-- Beside a card under a number of its own, the next card stands under the number after that. -/
theorem registerNext_beside_ten :
    let registry :=
      empty.after (.register { id := ⟨10⟩, name := "Island", kind := .land, effect := "haste" })
    Reachable registry ∧ registry.contains .last = false ∧ registry.contains ⟨11⟩ = false ∧
      (registry.registerNext { id := ⟨10⟩, name := "Swamp", kind := .land }).1 = .ok ⟨11⟩ := by
  intro registry
  have hreachable : Reachable registry := .after _ .empty
  have hlast : registry.contains .last = false := by decide
  obtain ⟨hfree, hok | ⟨-, source, hsource, -⟩⟩ :=
    (registerNext_of_reachable hreachable
      { id := ⟨10⟩, name := "Swamp", kind := .land }).2 hlast
  · exact ⟨hreachable, hlast, hfree, hok⟩
  · cases hsource

/-- One card is enough for the next identity to be taken, if it stands under the last one. -/
theorem registerNext_taken_beside_last :
    ∃ registry card, Reachable registry ∧ registry.size < UInt32.size ∧
      (registry.registerNext card).1 = .error (.taken .last) :=
  ⟨empty.after (.register { id := .last, name := "Island", kind := .land }),
    { id := ⟨0⟩, name := "Swamp", kind := .land }, .after _ .empty, by decide, rfl⟩

end Registry

end CardEffects
