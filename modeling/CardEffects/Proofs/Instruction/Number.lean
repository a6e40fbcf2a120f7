import CardEffects.Proofs.Instruction.Triggered
import CardEffects.Proofs.Text.Numeral

/-!
# Words where a number is looked for

An action looks for a number in one place, behind its field if it writes one and otherwise right
behind its own word. A word that stands there and has the shape of an integer is read as exactly the
number that it denotes, or it is refused because the number does not fit: however long the word is,
nothing is cut off, wrapped or replaced. The families differ in what becomes of any other word. It
is refused, left for the slot to come, or kept as something that is no number.

* `Instruction.BeginsWith`, `Instruction.InNumberSlot`: the word stands where the number is looked
  for.
* `Instruction.InNumberSlot.exists_ofHead`: what is read there is read as a number.
* `Instruction.parse_of_inNumberSlot`: what becomes of the text, for every word.
-/

namespace CardEffects

variable {word : String}

/-! ## Reading a number -/

/-- A numeral in the range is read as its value. -/
theorem readInteger_of_isSigned {number : Int64} (h : Numeral.IsSigned word number.toInt) :
    readInteger word = .ok number := by
  rw [readInteger, Numeral.int64?_eq_some_iff.2 h]

/-- A word that is no numeral, or one out of the range, is not read as a number. -/
theorem readInteger_of_forall_not (h : ∀ number : Int64, ¬ Numeral.IsSigned word number.toInt) :
    readInteger word = .error (.notInteger word) := by
  have hnone : Numeral.int64? word = none :=
    Option.eq_none_iff_forall_ne_some.2 fun number hnumber =>
      h number (Numeral.int64?_eq_some_iff.1 hnumber)
  rw [readInteger, hnone]

/-! ## The slots of the families -/

variable {rest : List Token}

/-- A slot that reads words as numbers is filled by a number, or is at fault. -/
theorem Slot.takeChecked_number {α : Type} {read : Token → Except Fault (Option α)}
    {fill : Int64 → α}
    (h : read (.bare word) = (readInteger word).map fun number => some (fill number)) :
    takeChecked read (.bare word :: rest) =
      (readInteger word).map fun number => (some (fill number), rest) := by
  cases hread : readInteger word with
  | error fault =>
    rw [hread] at h
    exact takeChecked_cons_of_error h rest
  | ok number =>
    rw [hread] at h
    exact takeChecked_cons_of_some h rest

namespace Slots

/-- A word behind the field is read as the number to add or take away. -/
theorem modifier_number {validation : Validation} {field : Token} {name : String}
    (hfield : field.text? = some name) (hadmits : validation.AdmitsField name) :
    modifier validation (field :: .bare word :: rest) = (readInteger word).map fun number =>
      { Tail.ofTokens rest with field := some name, value := some (.int number) } := by
  have htake : takeField validation (field :: .bare word :: rest) =
      .ok (name, .bare word :: rest) := by
    cases field with
    | bare field | quoted field =>
      cases hfield
      rw [takeField, if_pos hadmits]
    | group group => cases hfield
  rw [modifier, htake]
  show (Quantity.ofToken (.bare word) >>= _) = _
  rw [Quantity.ofToken]
  cases readInteger word <;> rfl

theorem generate_number :
    generate (.bare word :: rest) = (readInteger word).map fun number =>
      { field := some Lexicon.mana
        amount := some number
        value :=
          (Slot.take Token.text? rest).1.map fun colours => .list (alternatives colours) } := by
  have hread : some <$> Quantity.ofToken (.bare word) =
      (readInteger word).map fun number => some (Quantity.known number) := by
    rw [Quantity.ofToken]
    cases readInteger word <;> rfl
  rw [generate, Slot.takeChecked_number hread]
  cases readInteger word with
  | error fault => rfl
  | ok number =>
    -- A number leaves nothing to put off, so that only the colours can be the value.
    rcases hcolours : Slot.take Token.text? rest with ⟨_ | colours, left⟩ <;>
      simp [Except.map, bind, Except.bind, hcolours, Quantity.group?, Quantity.count]

/-- A word in the shape of a number behind an action with a count is read as the count. -/
theorem resourceCount_number (h : Numeral.isInteger word = true) :
    resourceCount (.bare word :: rest) = (readInteger word).map fun number =>
      { amount := some number
        needsCreature := rest.head?.bind Token.text? == some Lexicon.chosenCreature } := by
  have hread : Quantity.ofCountToken (.bare word) =
      (readInteger word).map fun number => some (.known number) := by
    rw [Quantity.ofCountToken, if_pos h]
  rw [resourceCount, Slot.takeChecked_number hread]
  cases readInteger word <;> rfl

/-- Any other word is left for the slot of the chosen creature. -/
theorem resourceCount_word (h : Numeral.isInteger word = false) :
    resourceCount (.bare word :: rest) =
      .ok { amount := some 1, needsCreature := word == Lexicon.chosenCreature } := by
  have hread : Quantity.ofCountToken (.bare word) = .ok none := by
    rw [Quantity.ofCountToken, h, if_neg Bool.false_ne_true]
  rw [resourceCount, Slot.takeChecked_cons_of_none hread]
  rfl

theorem generic_number (h : Numeral.isInteger word = true) :
    generic (.bare word :: rest) = (readInteger word).map fun number =>
      { Tail.ofTokens rest with value := some (.int number) } := by
  have hread : readValue (.bare word) =
      (readInteger word).map fun number => some (.int number) := by
    rw [readValue, if_neg (Tail.not_isAim_of_test (by decide) h), literalValue, if_pos h]
    cases readInteger word <;> rfl
  rw [generic, Slot.takeChecked_number hread]
  cases readInteger word <;> rfl

/-- Any other word is a value that is no number, or it is an aim and no value. -/
theorem generic_word (h : Numeral.isInteger word = false) (rest : List Token) :
    ∃ slots, generic (.bare word :: rest) = .ok slots ∧
      ∀ number, slots.value ≠ some (.int number) := by
  by_cases haim : Tail.IsAim word
  · have hread : readValue (.bare word) = .ok none := by
      rw [readValue, if_pos haim]
    rw [generic, Slot.takeChecked_cons_of_none hread]
    exact ⟨_, rfl, fun number heq => Option.some_ne_none _ heq.symm⟩
  · obtain ⟨value, hvalue, hne⟩ : ∃ value, literalValue word = .ok value ∧
        ∀ number, value ≠ .int number := by
      rw [literalValue, h, if_neg Bool.false_ne_true]
      split
      · exact ⟨_, rfl, by simp⟩
      · exact ⟨_, rfl, by simp⟩
    have hread : readValue (.bare word) = .ok (some value) := by
      rw [readValue, if_neg haim, hvalue]
      rfl
    rw [generic, Slot.takeChecked_cons_of_some hread]
    exact ⟨_, rfl, fun number heq => hne number (Option.some.inj heq)⟩

end Slots

namespace Instruction

variable {validation : Validation} {text : String} {trigger : Option String} {action : Action}
  {args : List Token}

/-! ## Where a number is looked for -/

/-- The text begins with the action, behind the trigger if it has one, and the tokens behind the
action are `args`. The reader admits the trigger. -/
inductive BeginsWith (validation : Validation) (text : String) :
    Option String → Action → List Token → Prop
  | untriggered {head : Token} {args : List Token} {action : Action}
      (htokens : tokens text = .ok (head :: args))
      (hhead : head.text? = some (Keyword.word action)) :
      BeginsWith validation text none action args
  | triggered {first head : Token} {args : List Token} {word : String} {action : Action}
      (htokens : tokens text = .ok (first :: head :: args)) (hfirst : first.text? = some word)
      (htrigger : IsTriggerWord word) (hadmits : validation.AdmitsTrigger word)
      (hhead : head.text? = some (Keyword.word action)) :
      BeginsWith validation text (some word) action args

/-- The word stands where the actions of the family look for a number: right behind the action, or
behind the field that it writes, which the reader admits. -/
inductive InNumberSlot (validation : Validation) (word : String) :
    Action.Family → List Token → Prop
  | modifier {field : Token} {name : String} {rest : List Token}
      (hfield : field.text? = some name) (hadmits : validation.AdmitsField name) :
      InNumberSlot validation word .modifier (field :: .bare word :: rest)
  | generate {rest : List Token} : InNumberSlot validation word .generate (.bare word :: rest)
  | resourceCount {rest : List Token} :
      InNumberSlot validation word .resourceCount (.bare word :: rest)
  | generic {rest : List Token} : InNumberSlot validation word .generic (.bare word :: rest)

/-- The slot that the number belongs to holds the given one. -/
def HoldsNumber (instruction : Instruction) (number : Int64) : Prop :=
  match instruction.action.family with
  | .modifier | .generic => instruction.value = some (.int number)
  | .generate | .resourceCount => instruction.amount = some number
  | .static => False

/-- What is read behind an action decides what becomes of the text. -/
theorem parse_of_beginsWith (h : BeginsWith validation text trigger action args) :
    parse validation text =
      (((ofHead validation text args (.action action)).map ({ · with trigger })).map
        some).mapError (⟨text, ·⟩) := by
  have haction {head : Token} (hhead : head.text? = some (Keyword.word action)) :
      readTrigger head = none ∧ readHead head = .ok (.action action) := by
    have htrigger : readTrigger head = none := by
      rw [readTrigger, hhead]
      simp [Option.filter, not_isTriggerWord_action]
    cases head with
    | bare word | quoted word =>
      cases hhead
      exact ⟨htrigger, readHead_action action⟩
    | group group => cases hhead
  cases h with
  | untriggered htokens hhead =>
    obtain ⟨hnone, hread⟩ := haction hhead
    rw [parse_eq_readTokens htokens, readTokens, if_neg (List.cons_ne_nil _ _),
      ofTokens_of_no_trigger text hnone, hread]
    rfl
  | triggered htokens hfirst htrigger hadmits hhead =>
    obtain ⟨-, hread⟩ := haction hhead
    have hsome := readTrigger_eq_some_iff.2 ⟨hfirst, htrigger⟩
    rw [parse_eq_readTokens htokens, readTokens, if_neg (List.cons_ne_nil _ _),
      ofTokens_of_trigger text hsome hadmits, hread]
    rfl

/-- A word that stands for a number is read as a number, and its slot holds that number. Two
families ask for a number whatever the word is. -/
theorem InNumberSlot.exists_ofHead (h : InNumberSlot validation word action.family args)
    (hnumber : Numeral.isInteger word = true ∨ action.family = .modifier ∨
      action.family = .generate) (text : String) :
    ∃ fill : Int64 → Instruction,
      ofHead validation text args (.action action) = (readInteger word).map fill ∧
        ∀ number, (fill number).action = action ∧ (fill number).HoldsNumber number := by
  have hread {slots : Except Fault Slots} {fill : Int64 → Slots}
      (hslots : slots = (readInteger word).map fill) :
      slots.map (fun found => { found with action, text : Instruction }) =
        (readInteger word).map fun number => { fill number with action, text } := by
    rw [hslots]
    cases readInteger word <;> rfl
  rw [ofHead]
  generalize hfamily : action.family = family at h hnumber
  cases h with
  | modifier hfield hadmits =>
    refine ⟨_, hread (Slots.modifier_number hfield hadmits), fun number => ⟨rfl, ?_⟩⟩
    simp only [HoldsNumber, hfamily]
  | generate =>
    refine ⟨_, hread Slots.generate_number, fun number => ⟨rfl, ?_⟩⟩
    simp only [HoldsNumber, hfamily]
  | resourceCount =>
    have hinteger : Numeral.isInteger word = true := by simpa using hnumber
    refine ⟨_, hread (Slots.resourceCount_number hinteger), fun number => ⟨rfl, ?_⟩⟩
    simp only [HoldsNumber, hfamily]
  | generic =>
    have hinteger : Numeral.isInteger word = true := by simpa using hnumber
    refine ⟨_, hread (Slots.generic_number hinteger), fun number => ⟨rfl, ?_⟩⟩
    simp only [HoldsNumber, hfamily]

/-! ## Texts -/

/-- What becomes of a text with the given word where its action looks for a number. If the word is a
run of digits, with or without a sign, the slot holds exactly the number that it denotes, or the
text is refused for the word if the number does not fit into 64 bits. Any other word is refused for
not being a number where nothing else can stand; it is left in place where a number may be missing,
so that the number is one and the word is looked at for the next slot; and elsewhere it makes an
instruction whose value is no number. -/
theorem parse_of_inNumberSlot (hbegins : BeginsWith validation text trigger action args)
    (hslot : InNumberSlot validation word action.family args) :
    (∀ n, Numeral.IsSigned word n →
        (-2 ^ 63 ≤ n ∧ n ≤ 2 ^ 63 - 1 → ∃ instruction number,
            parse validation text = .ok (some instruction) ∧ instruction.action = action ∧
              instruction.HoldsNumber number ∧ number.toInt = n) ∧
          (¬ (-2 ^ 63 ≤ n ∧ n ≤ 2 ^ 63 - 1) →
            parse validation text = .error ⟨text, .notInteger word⟩)) ∧
      ((∀ n, ¬ Numeral.IsSigned word n) →
        (action.family = .modifier ∨ action.family = .generate →
            parse validation text = .error ⟨text, .notInteger word⟩) ∧
          (action.family = .resourceCount →
            parse validation text = .ok (some
              { trigger, action, text, amount := some 1,
                needsCreature := word == Lexicon.chosenCreature })) ∧
          (action.family = .generic → ∃ instruction,
            parse validation text = .ok (some instruction) ∧
              ∀ number, instruction.value ≠ some (.int number))) := by
  have hparse := parse_of_beginsWith hbegins
  refine ⟨fun n hn => ?_, fun hnone => ?_⟩
  · obtain ⟨fill, hread, hfill⟩ :=
      hslot.exists_ofHead (.inl (Numeral.isInteger_iff.2 ⟨n, hn⟩)) text
    rw [hread] at hparse
    refine ⟨fun hrange => ?_, fun hrange => ?_⟩
    · have hnumber : (Int64.ofInt n).toInt = n := Int64.toInt_ofInt_of_le hrange.1 (by omega)
      have hfits : Numeral.IsSigned word (Int64.ofInt n).toInt := by rwa [hnumber]
      rw [readInteger_of_isSigned hfits] at hparse
      obtain ⟨haction, hholds⟩ := hfill (Int64.ofInt n)
      exact ⟨_, _, hparse, haction, hholds, hnumber⟩
    · -- No 64-bit integer is the number that the word denotes.
      have hexceeds (number : Int64) : ¬ Numeral.IsSigned word number.toInt := by
        intro hnumber
        rw [hn.unique hnumber] at hrange
        exact hrange ⟨number.le_toInt, Int.le_sub_one_of_lt number.toInt_lt⟩
      rw [readInteger_of_forall_not hexceeds] at hparse
      exact hparse
  · have hinteger : Numeral.isInteger word = false := by
      rw [Bool.eq_false_iff, ne_eq, Numeral.isInteger_iff]
      exact fun ⟨n, hn⟩ => hnone n hn
    refine ⟨fun hfamily => ?_, fun hfamily => ?_, fun hfamily => ?_⟩
    · obtain ⟨fill, hread, -⟩ := hslot.exists_ofHead (.inr hfamily) text
      rw [hread, readInteger_of_forall_not fun number => hnone number.toInt] at hparse
      exact hparse
    · rw [hfamily] at hslot
      cases hslot with
      | resourceCount =>
        rw [ofHead] at hparse
        simp only [hfamily, Slots.resourceCount_word hinteger] at hparse
        exact hparse
    · rw [hfamily] at hslot
      cases hslot with
      | @generic rest =>
        obtain ⟨slots, hslots, hvalue⟩ := Slots.generic_word hinteger rest
        rw [ofHead] at hparse
        simp only [hfamily, hslots] at hparse
        exact ⟨_, hparse, hvalue⟩

/-- The least number of 64 bits is read, with zeros in front and behind a trigger and a quoted
field; the number after the greatest is refused, and so is a fraction; and a word in the place of an
amount is looked at for the next slot. -/
theorem parse_of_inNumberSlot_bounds :
    (∃ instruction number,
        parse .advisory "tap? dec \"att\" -0009223372036854775808 Bear" = .ok (some instruction) ∧
          instruction.action = .decrease ∧ instruction.HoldsNumber number ∧
          number.toInt = -9223372036854775808) ∧
      parse .strict "gen +9223372036854775808" =
        .error ⟨"gen +9223372036854775808", .notInteger "+9223372036854775808"⟩ ∧
      parse .strict "gen 1/2" = .error ⟨"gen 1/2", .notInteger "1/2"⟩ ∧
      parse .strict "draw creatureid" = .ok (some
        { action := .draw, amount := some 1, needsCreature := true, text := "draw creatureid" }) ∧
      ∃ instruction, parse .strict "create 1x" = .ok (some instruction) ∧
        ∀ number, instruction.value ≠ some (.int number) := by
  have hnone {word : String} (h : Numeral.integer? word = none) :
      ∀ n, ¬ Numeral.IsSigned word n := by
    intro n hn
    rw [Numeral.integer?_eq_some_iff.2 hn] at h
    cases h
  -- Each text begins with its action, as its tokens show.
  have hdec : BeginsWith .advisory "tap? dec \"att\" -0009223372036854775808 Bear" (some "tap?")
      .decrease [.quoted "att", .bare "-0009223372036854775808", .bare "Bear"] := by
    have htokens : tokens "tap? dec \"att\" -0009223372036854775808 Bear" =
        .ok [.bare "tap?", .bare "dec", .quoted "att", .bare "-0009223372036854775808",
          .bare "Bear"] := by decide
    exact .triggered htokens rfl (by decide) (by decide) rfl
  have huntriggered {text word : String} (action : Action)
      (htokens : tokens text = .ok [.bare (Keyword.word action), .bare word]) :
      BeginsWith .strict text none action [.bare word] :=
    .untriggered htokens rfl
  have hgen : BeginsWith .strict "gen +9223372036854775808" none .generate
      [.bare "+9223372036854775808"] := huntriggered .generate (by decide)
  have hhalf : BeginsWith .strict "gen 1/2" none .generate [.bare "1/2"] :=
    huntriggered .generate (by decide)
  have hdraw : BeginsWith .strict "draw creatureid" none .draw [.bare "creatureid"] :=
    huntriggered .draw (by decide)
  have hcreate : BeginsWith .strict "create 1x" none .create [.bare "1x"] :=
    huntriggered .create (by decide)
  refine ⟨?_, ?_, ?_, ?_, ?_⟩
  · have hsigned : Numeral.IsSigned "-0009223372036854775808" (-9223372036854775808) :=
      Numeral.integer?_eq_some_iff.1 (by decide)
    exact ((parse_of_inNumberSlot hdec (.modifier rfl (by decide))).1 _ hsigned).1 (by decide)
  · have hsigned : Numeral.IsSigned "+9223372036854775808" 9223372036854775808 :=
      Numeral.integer?_eq_some_iff.1 (by decide)
    exact ((parse_of_inNumberSlot hgen .generate).1 _ hsigned).2 (by decide)
  · exact ((parse_of_inNumberSlot hhalf .generate).2 (hnone (by decide))).1 (.inr rfl)
  · exact ((parse_of_inNumberSlot hdraw .resourceCount).2 (hnone (by decide))).2.1 rfl
  · exact ((parse_of_inNumberSlot hcreate .generic).2 (hnone (by decide))).2.2 rfl

end Instruction

end CardEffects
