import CardEffects.Card.Record
import CardEffects.Proofs.Text.Numeral

/-!
# Records and the cards that they denote

The record of a card denotes that card, whatever its numbers, its texts and its kind are. Other
records may denote the same card: one that is written with leading zeros, with another mark for
tapped, or with statistics that are no creature's. What such a record says beyond its card is lost.

* `Card.ofRecord_toRecord`: the card that the record of a card denotes.
* `Card.Record.Valid`, `Card.Record.HasFault`: the records that denote a card, and what is wrong
  with the others.
* `Card.Record.normalise`, `Card.Record.Normal`: the record of the card that a record denotes, and
  the records that are left as they are.
* `Card.ofRecord_normalises`: what becomes of any card, and of any record.
-/

namespace CardEffects.Card

/-! ## The record of a card -/

/-- The number in the record of a card is read back. -/
theorem cardId_toRecord (card : Card) : card.toRecord.cardId = .ok card.id := by
  have hnumeral : Numeral.uint32? card.toRecord.id = some card.id.number :=
    Numeral.uint32?_toString card.id.number
  rw [Record.cardId, hnumeral]

theorem cardKind_toRecord (card : Card) : card.toRecord.cardKind = .ok card.kind := by
  rcases card with ⟨_, _, _, _, _ | _ | _ | _, _, _, _, _⟩ <;> rfl

/-- The record of a card denotes that card. -/
theorem ofRecord_toRecord (card : Card) : ofRecord card.toRecord = .ok card := by
  have htapped : ((if card.tapped then 1 else 0 : UInt8) != 0) = card.tapped := by
    cases card.tapped <;> rfl
  calc ofRecord card.toRecord
      = .ok { card with tapped := (if card.tapped then 1 else 0 : UInt8) != 0 } := by
        rw [ofRecord, cardId_toRecord, cardKind_toRecord]
        rfl
    _ = .ok card := by rw [htapped]

/-! ## Valid records, faults and normal forms -/

namespace Record

/-- The words for the kinds of cards. -/
def kindNames : List String :=
  ["Land", "Spell", "Enchant", "Creature"]

/-- The identity of the record is an unsigned numeral, and its number is not too large. -/
def HasId (record : Record) : Prop :=
  ∃ number < 2 ^ 32, Numeral.IsUnsigned record.id number

/-- Attack and defence are both there. -/
def HasStats (record : Record) : Prop :=
  record.attack.isSome ∧ record.defence.isSome

/-- The records that denote a card. -/
structure Valid (record : Record) : Prop where
  /-- The identity is one that cards can have. -/
  hasId : record.HasId
  /-- The word for the kind is one of the four. -/
  kind_mem : record.kind ∈ kindNames
  /-- A creature has its statistics. -/
  hasStats : record.kind = "Creature" → record.HasStats

/-- What is wrong with a record that denotes no card. The identity comes first: where it is at
fault, the kind and the statistics are not. -/
inductive HasFault (record : Record) : Fault → Prop
  | invalidId (hid : ¬ record.HasId) : HasFault record (.invalidId record.id)
  | unknownKind (hid : record.HasId) (hkind : record.kind ∉ kindNames) :
      HasFault record (.unknownKind record.kind)
  | missingStats (hid : record.HasId) (hkind : record.kind = "Creature")
      (hstats : ¬ record.HasStats) : HasFault record (.missingStats record.name)

/-- The record with the decimal numeral of a number as its identity, with one mark for every card
that is tapped, and with statistics only if it is a creature's. -/
def normalise (record : Record) (number : ℕ) : Record :=
  { record with
    id := toString number
    tapped := if record.tapped = 0 then 0 else 1
    attack := if record.kind = "Creature" then record.attack else none
    defence := if record.kind = "Creature" then record.defence else none }

/-- The records in normal form. -/
structure Normal (record : Record) : Prop where
  /-- The identity is written without a sign and without leading zeros. -/
  id : Numeral.Canonical record.id.toList
  /-- The mark for tapped is one of the two that records of cards have. -/
  tapped : record.tapped = 0 ∨ record.tapped = 1
  /-- Only creatures have statistics. -/
  stats : record.kind ≠ "Creature" → record.attack = none ∧ record.defence = none

variable {record : Record} {fault other : Fault}

/-- No record has two faults. -/
theorem HasFault.eq (h : record.HasFault fault) (hother : record.HasFault other) :
    fault = other := by
  have hcreature (hkind : record.kind = "Creature") : record.kind ∈ kindNames := by
    rw [hkind]
    decide
  cases h with
  | invalidId hid =>
    cases hother with
    | invalidId _ => rfl
    | unknownKind hid' _ => exact absurd hid' hid
    | missingStats hid' _ _ => exact absurd hid' hid
  | unknownKind hid hkind =>
    cases hother with
    | invalidId hid' => exact absurd hid hid'
    | unknownKind _ _ => rfl
    | missingStats _ hkind' _ => exact absurd (hcreature hkind') hkind
  | missingStats hid hkind _ =>
    cases hother with
    | invalidId hid' => exact absurd hid hid'
    | unknownKind _ hkind' => exact absurd (hcreature hkind) hkind'
    | missingStats _ _ _ => rfl

/-- A record with a fault is not valid. -/
theorem HasFault.not_valid (h : record.HasFault fault) : ¬ record.Valid := by
  intro hvalid
  cases h with
  | invalidId hid => exact hid hvalid.hasId
  | unknownKind _ hkind => exact hkind hvalid.kind_mem
  | missingStats _ hkind hstats => exact hstats (hvalid.hasStats hkind)

/-- The records in normal form are those that normalising leaves as they are. -/
theorem normalise_eq_self_iff {number : ℕ} (h : Numeral.IsUnsigned record.id number) :
    record.normalise number = record ↔ record.Normal := by
  have htapped : (if record.tapped = 0 then 0 else 1) = record.tapped ↔
      record.tapped = 0 ∨ record.tapped = 1 := by
    by_cases hzero : record.tapped = 0 <;> simp [hzero, eq_comm]
  have hstat (stat : Option Int64) :
      (if record.kind = "Creature" then stat else none) = stat ↔
        (record.kind ≠ "Creature" → stat = none) := by
    by_cases hkind : record.kind = "Creature" <;> simp [hkind, eq_comm]
  have hfields : record.normalise number = record ↔ toString number = record.id ∧
      (if record.tapped = 0 then 0 else 1) = record.tapped ∧
        (if record.kind = "Creature" then record.attack else none) = record.attack ∧
          (if record.kind = "Creature" then record.defence else none) = record.defence := by
    cases record
    simp [normalise]
  rw [hfields, htapped, hstat, hstat, Numeral.toString_eq_iff_canonical h]
  exact ⟨fun ⟨hid, hmark, hattack, hdefence⟩ =>
      ⟨hid, hmark, fun hkind => ⟨hattack hkind, hdefence hkind⟩⟩,
    fun ⟨hid, hmark, hstats⟩ =>
      ⟨hid, hmark, fun hkind => (hstats hkind).1, fun hkind => (hstats hkind).2⟩⟩

/-! ## Reading the identity and the kind -/

/-- A record has the identity that its numeral denotes. -/
theorem cardId_eq_ok_iff {id : Card.Id} :
    record.cardId = .ok id ↔ Numeral.IsUnsigned record.id id.number.toNat := by
  rw [← Numeral.uint32?_eq_some_iff, cardId]
  obtain ⟨number⟩ := id
  cases Numeral.uint32? record.id <;> simp

theorem exists_cardId_iff : (∃ id, record.cardId = .ok id) ↔ record.HasId := by
  constructor
  · rintro ⟨id, hid⟩
    exact ⟨_, id.number.toNat_lt, cardId_eq_ok_iff.1 hid⟩
  · rintro ⟨number, hlt, hnumber⟩
    refine ⟨⟨UInt32.ofNat number⟩, cardId_eq_ok_iff.2 ?_⟩
    rwa [UInt32.toNat_ofNat_of_lt' hlt]

/-- A record whose numeral denotes no identity is at fault for it. -/
theorem cardId_of_not_hasId (h : ¬ record.HasId) :
    record.cardId = .error (.invalidId record.id) := by
  rw [← exists_cardId_iff] at h
  rw [cardId] at h ⊢
  cases hnumeral : Numeral.uint32? record.id with
  | some number => exact absurd ⟨⟨number⟩, by rw [hnumeral]⟩ h
  | none => rfl

/-- The ways in which the word for the kind is read, together with the statistics. -/
inductive KindOutcome (record : Record) : Except Fault Kind → Prop
  /-- The word is that of a kind without statistics. -/
  | plain {kind : Kind} (hname : record.kind = kind.name) (hplain : kind.stats? = none) :
      KindOutcome record (.ok kind)
  /-- The word is that of creatures, and attack and defence are there. -/
  | creature {attack defence : Int64} (hname : record.kind = "Creature")
      (hattack : record.attack = some attack) (hdefence : record.defence = some defence) :
      KindOutcome record (.ok (.creature attack defence))
  /-- The word is that of creatures, and attack or defence is missing. -/
  | incomplete (hname : record.kind = "Creature") (hstats : ¬ record.HasStats) :
      KindOutcome record (.error (.missingStats record.name))
  /-- The word is that of no kind. -/
  | unknown (hname : record.kind ∉ kindNames) :
      KindOutcome record (.error (.unknownKind record.kind))

theorem kindOutcome_of_cardKind {result : Except Fault Kind} (h : record.cardKind = result) :
    KindOutcome record result := by
  rw [← h, cardKind]
  split
  · next hname => exact .plain hname rfl
  · next hname => exact .plain hname rfl
  · next hname => exact .plain hname rfl
  · next hname =>
    split
    · next hattack hdefence => exact .creature hname hattack hdefence
    · next hnone =>
      refine .incomplete hname fun ⟨hattack, hdefence⟩ => ?_
      obtain ⟨attack, hattack⟩ := Option.isSome_iff_exists.1 hattack
      obtain ⟨defence, hdefence⟩ := Option.isSome_iff_exists.1 hdefence
      exact hnone attack defence hattack hdefence
  · next hland hspell henchant hcreature =>
    refine .unknown fun hmem => ?_
    simp only [kindNames, List.mem_cons, List.not_mem_nil, or_false] at hmem
    exact hmem.elim hland fun hmem => hmem.elim hspell fun hmem => hmem.elim henchant hcreature

end Record

/-! ## What comes of a record -/

variable {record : Record} {id : Card.Id} {kind : Kind} {card : Card} {fault : Record.Fault}

/-- A record whose identity and kind can be read gives a card. -/
theorem ofRecord_of_ok (hid : record.cardId = .ok id) (hkind : record.cardKind = .ok kind) :
    ofRecord record = .ok
      { id
        name := record.name
        genericMana := record.genericMana
        colouredMana := record.colouredMana
        kind
        description := record.description
        effect := record.effect
        tapped := record.tapped != 0
        abilities := record.abilities } := by
  rw [ofRecord, hid, hkind]
  rfl

/-- Once the identity is read, the fault of a record is that of its kind. -/
theorem ofRecord_of_cardKind_error (hid : record.cardId = .ok id)
    (hkind : record.cardKind = .error fault) : ofRecord record = .error fault := by
  rw [ofRecord, hid, hkind]
  rfl

/-- A missing identity is the fault of a record, whatever its kind is. -/
theorem ofRecord_of_not_hasId (hid : ¬ record.HasId) :
    ofRecord record = .error (.invalidId record.id) := by
  rw [ofRecord, Record.cardId_of_not_hasId hid]
  rfl

/-- The ways in which reading a record comes out. -/
inductive Record.Outcome (record : Record) : Except Record.Fault Card → Prop
  /-- The record has a fault. -/
  | faulty {fault : Record.Fault} (hfault : record.HasFault fault) :
      Outcome record (.error fault)
  /-- The record denotes a card, whose own record it is after normalising. -/
  | denoted {card : Card} {number : ℕ} (hvalid : record.Valid)
      (hnumber : Numeral.IsUnsigned record.id number)
      (hcard : card.toRecord = record.normalise number) : Outcome record (.ok card)

/-- Reading a record comes out in one of the listed ways. -/
theorem outcome_ofRecord (record : Record) : record.Outcome (ofRecord record) := by
  by_cases hid : record.HasId
  -- The identity is read first, so only here does it matter what the word for the kind is.
  · obtain ⟨id, hok⟩ := Record.exists_cardId_iff.2 hid
    have hnumber := Record.cardId_eq_ok_iff.1 hok
    cases hkind : record.cardKind with
    | error fault =>
      rw [ofRecord_of_cardKind_error hok hkind]
      cases Record.kindOutcome_of_cardKind hkind with
      | incomplete hname hstats => exact .faulty (.missingStats hid hname hstats)
      | unknown hname => exact .faulty (.unknownKind hid hname)
    | ok kind =>
      rw [ofRecord_of_ok hok hkind]
      cases Record.kindOutcome_of_cardKind hkind with
      | plain hname hplain =>
        have hword : kind.name ∈ Record.kindNames ∧ kind.name ≠ "Creature" := by
          cases kind with
          | creature attack defence => cases hplain
          | land | spell | enchant => decide
        rw [← hname] at hword
        refine .denoted ⟨hid, hword.1, fun h => absurd h hword.2⟩ hnumber ?_
        simp [toRecord, Record.normalise, hname ▸ hword.2, hname, hplain]
      | creature hname hattack hdefence =>
        refine .denoted ⟨hid, ?_, fun _ => ?_⟩ hnumber ?_
        · rw [hname]
          decide
        · rw [Record.HasStats, hattack, hdefence]
          exact ⟨rfl, rfl⟩
        · simp [toRecord, Record.normalise, hname, hattack, hdefence, Kind.name, Kind.stats?]
  · rw [ofRecord_of_not_hasId hid]
    exact .faulty (.invalidId hid)

theorem outcome_of_ofRecord {result : Except Record.Fault Card} (h : ofRecord record = result) :
    record.Outcome result :=
  h ▸ outcome_ofRecord record

/-- The records that give a card are the valid ones. -/
theorem exists_ofRecord_iff : (∃ card, ofRecord record = .ok card) ↔ record.Valid := by
  constructor
  · rintro ⟨card, h⟩
    cases outcome_of_ofRecord h with
    | denoted hvalid _ _ => exact hvalid
  · intro hvalid
    cases h : ofRecord record with
    | ok card => exact ⟨card, rfl⟩
    | error fault =>
      cases outcome_of_ofRecord h with
      | faulty hfault => exact absurd hvalid hfault.not_valid

/-- A record is refused for the fault that it has, and for no other. -/
theorem ofRecord_eq_error_iff : ofRecord record = .error fault ↔ record.HasFault fault := by
  constructor
  · intro h
    cases outcome_of_ofRecord h with
    | faulty hfault => exact hfault
  · intro hfault
    cases h : ofRecord record with
    | ok card => exact absurd (exists_ofRecord_iff.1 ⟨card, h⟩) hfault.not_valid
    | error other =>
      cases outcome_of_ofRecord h with
      | faulty hother => rw [hother.eq hfault]

/-- The record of a card is the normal form of any record that the card is read from. -/
theorem exists_toRecord_eq_normalise (h : ofRecord record = .ok card) :
    ∃ number, Numeral.IsUnsigned record.id number ∧ card.toRecord = record.normalise number := by
  cases outcome_of_ofRecord h with
  | denoted _ hnumber hcard => exact ⟨_, hnumber, hcard⟩

/-- Cards and records. The record of a card denotes that card. A record denotes a card if and only
if its identity is an unsigned numeral of 32 bits, its kind is one of the four, and a creature has
attack and defence; otherwise it is refused for the first of these that does not hold. The record of
the card that a record denotes is that record after normalising, and the record itself if it was in
normal form. -/
theorem ofRecord_normalises :
    (∀ card : Card, ofRecord card.toRecord = .ok card) ∧
      ∀ record : Record, ((∃ card, ofRecord record = .ok card) ↔ record.Valid) ∧
        (∀ fault, ofRecord record = .error fault ↔ record.HasFault fault) ∧
        ∀ card, ofRecord record = .ok card →
          (∃ number, Numeral.IsUnsigned record.id number ∧
            card.toRecord = record.normalise number) ∧
          (card.toRecord = record ↔ record.Normal) := by
  refine ⟨ofRecord_toRecord, fun record => ?_⟩
  refine ⟨exists_ofRecord_iff, fun _ => ofRecord_eq_error_iff, fun card h => ?_⟩
  obtain ⟨number, hnumber, hcard⟩ := exists_toRecord_eq_normalise h
  refine ⟨⟨number, hnumber, hcard⟩, ?_⟩
  rw [hcard, Record.normalise_eq_self_iff hnumber]

/-- A plus sign, leading zeros, an odd mark for tapped and the attack of a land are all lost. -/
theorem ofRecord_normalises_padded :
    let record : Record :=
      { id := "+0042", name := "Bog", genericMana := 0, colouredMana := "", kind := "Land",
        description := "", tapped := 7, abilities := [], effect := "", attack := some 3 }
    let card : Card := { id := ⟨42⟩, name := "Bog", kind := .land, tapped := true }
    ofRecord record = .ok card ∧
      (∃ number, Numeral.IsUnsigned record.id number ∧
        card.toRecord = record.normalise number) ∧
      card.toRecord ≠ record := by
  intro record card
  have hread : ofRecord record = .ok card := by decide
  obtain ⟨hnormalised, hself⟩ := (ofRecord_normalises.2 record).2.2 card hread
  refine ⟨hread, hnormalised, fun heq => ?_⟩
  have hplus : '+' ∈ "+0042".toList := by decide
  exact absurd ((hself.1 heq).id.1.2 '+' hplus).1 (by decide)

end CardEffects.Card
