import CardEffects.Proofs.Registry.NextIdentity
import CardEffects.Proofs.Registry.Run

/-!
# Registering cards with distinct identities

What registering a card comes to depends on the settings and on whether its own identity is taken.
Cards with distinct identities therefore do not get in one another's way: each is answered, and
stands in the registry afterwards, as if it were the only one.

* `Registry.register_congr`: what registering a card depends on.
* `Registry.answers_registerAll`, `Registry.get?_registerAll`: cards with distinct identities are
  registered as if each were the only one.
* `Registry.Reachable.ext`: a registry with a history is told by its settings and its entries.
* `Registry.registerAll_of_perm`: the order in which such cards are registered makes no difference.
-/

namespace CardEffects.Registry

/-- The registry that registering cards leaves, one after the other. -/
def registerAll (registry : Registry) (cards : List Card) : Registry :=
  registry.afterAll (cards.map .register)

variable {registry first second : Registry} {card other : Card} {cards order : List Card}
  {id : Card.Id}

@[simp]
theorem registerAll_nil (registry : Registry) : registry.registerAll [] = registry := rfl

@[simp]
theorem registerAll_cons (registry : Registry) (card : Card) (cards : List Card) :
    registry.registerAll (card :: cards) = (registry.register card).2.registerAll cards := rfl

/-! ## One card -/

/-- What a card is loaded with depends on the settings alone. -/
theorem load_congr (hvalidation : first.validation = second.validation)
    (hpolicy : first.policy = second.policy) (card : Card) :
    first.load card = second.load card := by
  rw [load, load, hvalidation, hpolicy]

/-- What registering a card comes to depends on the settings and on the entry under its identity. -/
theorem register_congr (hget : first.get? card.id = second.get? card.id)
    (hvalidation : first.validation = second.validation) (hpolicy : first.policy = second.policy) :
    (first.register card).1 = (second.register card).1 ∧
      (first.register card).2.get? card.id = (second.register card).2.get? card.id := by
  have hcontains : second.contains card.id = first.contains card.id := by
    rw [contains, contains, hget]
  have hload : second.load card = first.load card := load_congr hvalidation.symm hpolicy.symm card
  rcases register_cases first card with
    ⟨htaken, h⟩ | ⟨hfree, ⟨instructions, hloaded, h⟩ | ⟨source, hloaded, h⟩⟩
  · rw [h, register_of_contains (hcontains.trans htaken)]
    exact ⟨rfl, hget⟩
  · rw [h, register_of_load_ok (hcontains.trans hfree) (hload.trans hloaded)]
    refine ⟨rfl, ?_⟩
    rw [get?_insert, get?_insert, if_pos rfl, if_pos rfl]
  · rw [h, register_of_load_error (hcontains.trans hfree) (hload.trans hloaded)]
    exact ⟨rfl, hget⟩

/-- Registering a card makes no difference to the entry under another identity. -/
theorem get?_register_of_ne (hne : card.id ≠ id) :
    (registry.register card).2.get? id = registry.get? id := by
  rcases unchanged_or_registered registry card with ⟨-, h⟩ | ⟨instructions, -, -, -, h⟩
  · rw [h]
  · rw [h, get?_insert, if_neg hne]

/-- Registering a card makes no difference to registering one under another identity. -/
theorem register_register_of_ne (hne : card.id ≠ other.id) :
    ((registry.register card).2.register other).1 = (registry.register other).1 ∧
      ((registry.register card).2.register other).2.get? other.id =
        (registry.register other).2.get? other.id :=
  register_congr (get?_register_of_ne hne) (settings_register registry card).1
    (settings_register registry card).2

/-! ## Many cards -/

theorem settings_registerAll (registry : Registry) (cards : List Card) :
    (registry.registerAll cards).validation = registry.validation ∧
      (registry.registerAll cards).policy = registry.policy := by
  induction cards generalizing registry with
  | nil => exact ⟨rfl, rfl⟩
  | cons card cards ih =>
    obtain ⟨hvalidation, hpolicy⟩ := ih (registry.register card).2
    exact ⟨hvalidation.trans (settings_register registry card).1,
      hpolicy.trans (settings_register registry card).2⟩

/-- Registering cards makes no difference to the entry under the identity of none of them. -/
theorem get?_registerAll_of_forall_ne (h : ∀ card ∈ cards, card.id ≠ id) :
    (registry.registerAll cards).get? id = registry.get? id := by
  induction cards generalizing registry with
  | nil => rfl
  | cons card cards ih =>
    obtain ⟨hne, hcards⟩ := List.forall_mem_cons.1 h
    rw [registerAll_cons, ih hcards, get?_register_of_ne hne]

/-- If no identity comes twice, the first card has one that no other has. -/
theorem forall_id_ne_of_nodup_cons (h : ((card :: cards).map Card.id).Nodup) :
    ∀ other ∈ cards, card.id ≠ other.id :=
  (List.pairwise_cons.1 (List.pairwise_map.1 h)).1

/-- Cards with distinct identities are answered as if each were the only one. -/
theorem answers_registerAll (hcards : (cards.map Card.id).Nodup) (registry : Registry) :
    registry.answers (cards.map .register) =
      cards.map fun card => some (registry.register card).1 := by
  induction cards generalizing registry with
  | nil => rfl
  | cons card cards ih =>
    have hne := forall_id_ne_of_nodup_cons hcards
    calc registry.answers ((card :: cards).map .register)
        = some (registry.register card).1 ::
            (registry.register card).2.answers (cards.map .register) := rfl
      _ = some (registry.register card).1 ::
            cards.map fun other => some ((registry.register card).2.register other).1 := by
          rw [ih (List.nodup_cons.1 hcards).2]
      _ = (card :: cards).map fun other => some (registry.register other).1 := by
          refine congrArg _ (List.map_congr_left fun other hother => ?_)
          rw [(register_register_of_ne (hne other hother)).1]

/-- Each of them is answered as if it were the only one, wherever it stands in the list. -/
theorem getElem?_answers_registerAll (hcards : (cards.map Card.id).Nodup) {index : ℕ}
    (hcard : cards[index]? = some card) :
    (registry.answers (cards.map .register))[index]? = some (some (registry.register card).1) := by
  rw [answers_registerAll hcards, List.getElem?_map, hcard]
  rfl

/-- Cards with distinct identities stand in the registry afterwards as if each were the only
one. -/
theorem get?_registerAll (hcards : (cards.map Card.id).Nodup) (hmem : card ∈ cards) :
    (registry.registerAll cards).get? card.id = (registry.register card).2.get? card.id := by
  induction cards generalizing registry with
  | nil => cases hmem
  | cons head cards ih =>
    have hne := forall_id_ne_of_nodup_cons hcards
    rw [registerAll_cons]
    rcases List.mem_cons.1 hmem with rfl | hmem
    · -- None of the cards after the first stands under its identity.
      exact get?_registerAll_of_forall_ne fun other hother => (hne other hother).symm
    · rw [ih (List.nodup_cons.1 hcards).2 hmem, (register_register_of_ne (hne card hmem)).2]

/-! ## Equal registries -/

/-- A registry with a history is told by its settings and its entries: they tell the next number
too. -/
theorem Reachable.ext (hfirst : Reachable first) (hsecond : Reachable second)
    (hvalidation : first.validation = second.validation) (hpolicy : first.policy = second.policy)
    (hget : ∀ id, first.get? id = second.get? id) : first = second := by
  have hentries : first.entries = second.entries := Std.ExtTreeMap.ext_getElem? hget
  have hcontains : ∀ id, first.contains id = second.contains id := fun id => by
    rw [contains, contains, hget]
  -- Both numbers have the same bounds.
  have hbound (n : ℕ) : first.nextNumber.toNat ≤ n ↔ second.nextNumber.toNat ≤ n := by
    rw [hfirst.nextLeast n, hsecond.nextLeast n]
    simp only [hcontains]
  have hnext : first.nextNumber = second.nextNumber :=
    UInt32.toNat_inj.1
      (Nat.le_antisymm ((hbound _).2 (Nat.le_refl _)) ((hbound _).1 (Nat.le_refl _)))
  obtain ⟨_, _, _, _⟩ := first
  obtain ⟨_, _, _, _⟩ := second
  cases hentries
  cases hvalidation
  cases hpolicy
  cases hnext
  rfl

/-! ## The same cards in another order -/

/-- The order in which cards are registered makes no difference to any entry. -/
theorem get?_registerAll_of_perm (hcards : (cards.map Card.id).Nodup) (hperm : order.Perm cards)
    (id : Card.Id) :
    (registry.registerAll order).get? id = (registry.registerAll cards).get? id := by
  have horder : (order.map Card.id).Nodup := (hperm.map Card.id).nodup_iff.2 hcards
  by_cases hid : ∃ card ∈ cards, card.id = id
  · obtain ⟨card, hcard, rfl⟩ := hid
    rw [get?_registerAll horder (hperm.mem_iff.2 hcard), get?_registerAll hcards hcard]
  · have hne : ∀ card ∈ cards, card.id ≠ id := fun card hcard heq => hid ⟨card, hcard, heq⟩
    rw [get?_registerAll_of_forall_ne fun card hcard => hne card (hperm.mem_iff.1 hcard),
      get?_registerAll_of_forall_ne hne]

/-- Cards with distinct identities can be registered in any order. Each card is answered in the same
way, wherever it stands, whether it is registered, or refused because its identity was taken before
any of them, or refused for its effect text; and the registry afterwards is the same one. -/
theorem registerAll_of_perm (h : Reachable registry) (hcards : (cards.map Card.id).Nodup)
    (hperm : order.Perm cards) :
    (∀ (index place : ℕ) card, cards[index]? = some card → order[place]? = some card →
        ∃ result, (registry.answers (cards.map .register))[index]? = some (some result) ∧
          (registry.answers (order.map .register))[place]? = some (some result)) ∧
      registry.registerAll order = registry.registerAll cards := by
  have horder : (order.map Card.id).Nodup := (hperm.map Card.id).nodup_iff.2 hcards
  constructor
  · intro index place card hindex hplace
    exact ⟨(registry.register card).1, getElem?_answers_registerAll hcards hindex,
      getElem?_answers_registerAll horder hplace⟩
  · obtain ⟨hvalidation, hpolicy⟩ := settings_registerAll registry cards
    obtain ⟨hvalidation', hpolicy'⟩ := settings_registerAll registry order
    apply Reachable.ext (h.afterAll _) (h.afterAll _)
    · exact hvalidation'.trans hvalidation.symm
    · exact hpolicy'.trans hpolicy.symm
    · exact get?_registerAll_of_perm hcards hperm

/-- A card under the last identity, one under an identity that is taken and one whose effect text is
no effect, registered from the last to the first. -/
theorem registerAll_of_perm_mixed :
    let registry := empty.after (.register { id := ⟨10⟩, name := "Island", kind := .land })
    let swamp : Card := { id := ⟨10⟩, name := "Swamp", kind := .land }
    let ruin : Card := { id := ⟨20⟩, name := "Ruin", kind := .spell, effect := "haste; inc" }
    let scout : Card := { id := .last, name := "Scout", kind := .creature 2 1, effect := "haste" }
    let source : Effect.Error := ⟨1, "inc", ⟨"inc", .missing .field⟩⟩
    Reachable registry ∧ ([scout, swamp, ruin].map Card.id).Nodup ∧
      [ruin, swamp, scout].Perm [scout, swamp, ruin] ∧
      registry.answers ([scout, swamp, ruin].map .register) =
        [some (.ok .last), some (.error (.taken ⟨10⟩)), some (.error (.effect ⟨20⟩ source))] ∧
      (registry.answers ([ruin, swamp, scout].map .register))[0]? =
        some (some (.error (.effect ⟨20⟩ source))) ∧
      registry.registerAll [ruin, swamp, scout] = registry.registerAll [scout, swamp, ruin] := by
  intro registry swamp ruin scout source
  have hreachable : Reachable registry := .after _ .empty
  have hcards : ([scout, swamp, ruin].map Card.id).Nodup := by decide
  have hperm : [ruin, swamp, scout].Perm [scout, swamp, ruin] := by decide
  have hanswers : registry.answers ([scout, swamp, ruin].map .register) =
      [some (.ok .last), some (.error (.taken ⟨10⟩)), some (.error (.effect ⟨20⟩ source))] := by
    dsimp only [registry, swamp, ruin, scout, source]
    rfl
  obtain ⟨heach, hall⟩ := registerAll_of_perm hreachable hcards hperm
  -- The card that comes last in one order comes first in the other.
  obtain ⟨result, hlast, hfirst⟩ := heach 2 0 ruin rfl rfl
  rw [hanswers] at hlast
  cases hlast
  exact ⟨hreachable, hcards, hperm, hanswers, hfirst, hall⟩

end CardEffects.Registry
