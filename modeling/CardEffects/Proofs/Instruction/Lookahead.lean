import CardEffects.Proofs.Instruction.Outcome

/-!
# How far a reader looks

No instruction has more than seven tokens that matter: a trigger, an action, and at most five slots,
which is what an action to add or take away has. A reader that is given more tokens does not look at
them. So two texts whose first seven tokens are the same are read alike, whatever comes after those
tokens and however the texts are spaced; and an ability's word, which is looked up before the text
is cut into tokens, is no exception.

* `Alike`: two lists of tokens that are the same up to a given length.
* `Lockstep`: two readings that fill a slot in the same way and leave tokens that are alike.
* `Instruction.ofTokens_of_alike`: what an instruction is read from, seven tokens at most.
* `Instruction.parse_of_take_seven_eq`: texts with the same first seven tokens are read alike.
-/

namespace CardEffects

variable {α β : Type} {count : ℕ} {first second : List Token}

/-! ## Lists of tokens that begin alike -/

/-- The first `count` tokens of the two lists are the same. -/
def Alike (count : ℕ) (first second : List Token) : Prop :=
  first.take count = second.take count

namespace Alike

/-- Lists that begin alike for many tokens do for fewer. -/
theorem mono {fewer : ℕ} (h : Alike count first second) (hle : fewer ≤ count) :
    Alike fewer first second := by
  have htake (tokens : List Token) : (tokens.take count).take fewer = tokens.take fewer := by
    rw [List.take_take, Nat.min_eq_left hle]
  calc first.take fewer
      = (first.take count).take fewer := (htake first).symm
    _ = (second.take count).take fewer := by rw [h]
    _ = second.take fewer := htake second

/-- Lists that begin alike have the same first token, and what is behind it begins alike. -/
theorem cases_succ (h : Alike (count + 1) first second) :
    (first = [] ∧ second = []) ∨ ∃ token rest rest',
      first = token :: rest ∧ second = token :: rest' ∧ Alike count rest rest' := by
  unfold Alike at h
  rcases first with _ | ⟨token, rest⟩ <;> rcases second with _ | ⟨token', rest'⟩
  · exact .inl ⟨rfl, rfl⟩
  · simp at h
  · simp at h
  · rw [List.take_succ_cons, List.take_succ_cons, List.cons.injEq] at h
    obtain ⟨rfl, hrest⟩ := h
    exact .inr ⟨token, rest, rest', rfl, rfl, hrest⟩

theorem head?_eq (h : Alike (count + 1) first second) : first.head? = second.head? := by
  rcases h.cases_succ with ⟨rfl, rfl⟩ | ⟨token, rest, rest', rfl, rfl, -⟩ <;> rfl

end Alike

/-- Two readings of a slot that end with the same fault, or fill the slot in the same way and leave
tokens of which the first `count` are the same. -/
inductive Lockstep (count : ℕ) :
    Except Fault (α × List Token) → Except Fault (α × List Token) → Prop
  | fault (fault : Fault) : Lockstep count (.error fault) (.error fault)
  | filled {filler : α} {rest rest' : List Token} (h : Alike count rest rest') :
      Lockstep count (.ok (filler, rest)) (.ok (filler, rest'))

/-- Readings in lockstep come to the same if what follows looks at no more than `count` tokens. -/
theorem Lockstep.bind_eq {reading reading' : Except Fault (α × List Token)}
    {next : α × List Token → Except Fault β} (h : Lockstep count reading reading')
    (hnext : ∀ filler rest rest', Alike count rest rest' →
      next (filler, rest) = next (filler, rest')) :
    reading >>= next = reading' >>= next := by
  cases h with
  | fault fault => rfl
  | filled hrest => exact hnext _ _ _ hrest

/-! ## Slots -/

namespace Slot

/-- A slot looks at one token, and leaves the others. -/
theorem take_of_alike (read : Token → Option α) (h : Alike (count + 1) first second) :
    ∃ filler rest rest', take read first = (filler, rest) ∧ take read second = (filler, rest') ∧
      Alike count rest rest' := by
  rcases h.cases_succ with ⟨rfl, rfl⟩ | ⟨token, rest, rest', rfl, rfl, hrest⟩
  · exact ⟨none, [], [], rfl, rfl, rfl⟩
  · cases hread : read token with
    | none =>
      -- The token stays, and of the tokens that are left one fewer is asked to be the same.
      exact ⟨none, _, _, take_cons_of_none hread rest, take_cons_of_none hread rest',
        h.mono (Nat.le_succ count)⟩
    | some filler =>
      exact ⟨some filler, rest, rest', take_cons_of_some hread rest, take_cons_of_some hread rest',
        hrest⟩

/-- A slot that takes at most one token takes the same of two lists that begin alike. -/
theorem lockstep_takeChecked (read : Token → Except Fault (Option α))
    (h : Alike (count + 1) first second) :
    Lockstep count (takeChecked read first) (takeChecked read second) := by
  rcases h.cases_succ with ⟨rfl, rfl⟩ | ⟨token, rest, rest', rfl, rfl, hrest⟩
  · exact .filled rfl
  · rw [takeChecked, takeChecked]
    split
    · exact .filled hrest
    · exact .filled (h.mono (Nat.le_succ count))
    · exact .fault _

end Slot

/-- The target slots are three. -/
theorem Tail.ofTokens_of_alike (h : Alike 3 first second) : ofTokens first = ofTokens second := by
  obtain ⟨name, rest, rest', hname, hname', hrest⟩ := Slot.take_of_alike readName h
  obtain ⟨aim, left, left', haim, haim', hleft⟩ := Slot.take_of_alike readAim hrest
  obtain ⟨scope, _, _, hscope, hscope', -⟩ := Slot.take_of_alike readScope hleft
  simp only [ofTokens, hname, hname', haim, haim', hscope, hscope']

namespace Slots

theorem lockstep_takeField (validation : Validation) (h : Alike (count + 1) first second) :
    Lockstep count (takeField validation first) (takeField validation second) := by
  rcases h.cases_succ with ⟨rfl, rfl⟩ | ⟨token, rest, rest', rfl, rfl, hrest⟩
  · exact .fault _
  · cases token with
    | group group => exact .fault _
    | bare word | quoted word =>
      rw [takeField, takeField]
      split
      · exact .filled hrest
      · exact .fault _

/-- An action to add or take away looks at five tokens: two of its own and three of the target. -/
theorem modifier_of_alike (validation : Validation) (h : Alike 5 first second) :
    modifier validation first = modifier validation second := by
  -- One token for the field, one for the number, and three for the target slots.
  refine (lockstep_takeField validation h).bind_eq fun field rest rest' hrest => ?_
  rcases hrest.cases_succ with ⟨rfl, rfl⟩ | ⟨token, left, left', rfl, rfl, hleft⟩
  · rfl
  · simp only [Tail.ofTokens_of_alike hleft]

theorem generate_of_alike (h : Alike 2 first second) : generate first = generate second := by
  refine (Slot.lockstep_takeChecked _ h).bind_eq fun quantity rest rest' hrest => ?_
  obtain ⟨colours, _, _, hcolours, hcolours', -⟩ := Slot.take_of_alike Token.text? hrest
  simp only [hcolours, hcolours']

theorem resourceCount_of_alike (h : Alike 2 first second) :
    resourceCount first = resourceCount second := by
  -- After the amount the next token is looked at and left in place.
  refine (Slot.lockstep_takeChecked _ h).bind_eq fun quantity rest rest' hrest => ?_
  simp only [hrest.head?_eq]

/-- The other actions look at four tokens: one of their own and three of the target. -/
theorem generic_of_alike (h : Alike 4 first second) : generic first = generic second := by
  refine (Slot.lockstep_takeChecked _ h).bind_eq fun value rest rest' hrest => ?_
  simp only [Tail.ofTokens_of_alike hrest]

end Slots

/-! ## Instructions -/

namespace Instruction

theorem readAbility_of_alike (h : Alike 1 first second) :
    readAbility first = readAbility second := by
  rcases h.cases_succ with ⟨rfl, rfl⟩ | ⟨token, rest, rest', rfl, rfl, -⟩
  · rfl
  · cases token <;> rfl

/-- No action looks at more than five tokens. -/
theorem ofHead_of_alike (validation : Validation) (text : String) (h : Alike 5 first second)
    (head : Head) : ofHead validation text first head = ofHead validation text second head := by
  cases head with
  | ability ability => rfl
  | action action =>
    have hone : Alike 1 first second := h.mono (by omega)
    have htwo : Alike 2 first second := h.mono (by omega)
    have hfour : Alike 4 first second := h.mono (by omega)
    rw [ofHead, ofHead, Slots.modifier_of_alike validation h, Slots.generate_of_alike htwo,
      Slots.resourceCount_of_alike htwo, Slots.generic_of_alike hfour, readAbility_of_alike hone]

/-- An instruction is read from seven tokens at most. -/
theorem ofTokens_of_alike (validation : Validation) (text : String) (h : Alike 7 first second) :
    ofTokens validation text first = ofTokens validation text second := by
  -- One token for the trigger, one for the head, and five for what the head asks for.
  obtain ⟨trigger, rest, rest', htrigger, htrigger', hrest⟩ := Slot.take_of_alike readTrigger h
  simp only [ofTokens, htrigger, htrigger']
  rcases hrest.cases_succ with ⟨rfl, rfl⟩ | ⟨token, args, args', rfl, rfl, hargs⟩
  · rfl
  · simp only [ofHead_of_alike validation text hargs]

/-! ## Texts -/

variable (validation : Validation) (text text' : String)

/-- What is read from one text, as it is read from another: the instruction or the error holds that
text, and is the same in everything else. -/
def withText (text : String) :
    Except Error (Option Instruction) → Except Error (Option Instruction)
  | .ok none => .ok none
  | .ok (some instruction) => .ok (some { instruction with text })
  | .error error => .error { error with text }

/-- What the tokens of a text come to, if nothing is looked up in the text before it is cut. -/
def readTokens (found : List Token) : Except Error (Option Instruction) :=
  if found = [] then .ok none
  else ((ofTokens validation text found).map some).mapError (⟨text, ·⟩)

theorem ofHead_text (args : List Token) (head : Head) :
    ofHead validation text' args head =
      (ofHead validation text args head).map ({ · with text := text' }) := by
  cases head with
  | ability ability => rfl
  | action action =>
    -- In every family the text is put into what has been read, and is not read itself.
    rw [ofHead, ofHead]
    split
    · cases Slots.modifier validation args <;> rfl
    · cases Slots.generate args <;> rfl
    · cases Slots.resourceCount args <;> rfl
    · cases Slots.generic args <;> rfl
    · cases readAbility args <;> rfl

/-- The text is kept in the instruction, and makes no other difference. -/
theorem ofTokens_text (found : List Token) :
    ofTokens validation text' found =
      (ofTokens validation text found).map ({ · with text := text' }) := by
  rcases htake : Slot.take readTrigger found with ⟨trigger, rest⟩
  simp only [ofTokens, htake]
  split
  · rfl
  · rcases rest with _ | ⟨token, args⟩
    · rfl
    · simp only [ofHead_text validation text text' args]
      cases readHead token with
      | error fault => rfl
      | ok head =>
        show ((ofHead validation text args head).map _ >>= _) =
          (ofHead validation text args head >>= _).map _
        cases ofHead validation text args head <;> rfl

/-- The text that tokens are from is held by the result, and makes no difference else. -/
theorem readTokens_text (found : List Token) :
    readTokens validation text' found = withText text' (readTokens validation text found) := by
  unfold readTokens
  by_cases hfound : found = []
  · rw [if_pos hfound, if_pos hfound]
    rfl
  · rw [if_neg hfound, if_neg hfound, ofTokens_text validation text text']
    cases ofTokens validation text found <;> rfl

/-- An instruction looks at seven tokens: the trigger, the action and five after it. -/
theorem readTokens_of_alike (h : Alike 7 first second) :
    readTokens validation text first = readTokens validation text second := by
  have hnil : first = [] ↔ second = [] := by
    rcases h.cases_succ with ⟨rfl, rfl⟩ | ⟨token, rest, rest', rfl, rfl, -⟩ <;> simp
  unfold readTokens
  simp only [hnil, ofTokens_of_alike validation text h]

variable {validation text text'} {found found' : List Token}

/-- Looking an ability up in the text before it is cut makes no difference. -/
theorem parse_eq_readTokens (h : tokens text = .ok found) :
    parse validation text = readTokens validation text found := by
  rw [parse_eq, h]
  rfl

/-- Blanks at its ends make no difference to the tokens of a text. -/
theorem tokens_padded (h : tokens text = .ok found) {before after : String}
    (hbefore : ∀ c ∈ before.toList, Text.isBlank c = true)
    (hafter : ∀ c ∈ after.toList, Text.isBlank c = true) :
    tokens (before ++ text ++ after) = .ok found := by
  rw [tokens_eq_ok_iff] at h ⊢
  rw [String.toList_append, String.toList_append, Token.scan_append_blanks hafter,
    Token.scan_blanks_append hbefore, h]
  rfl

/-- Texts whose first seven tokens are the same are read alike: both as no instruction, as
instructions that are the same but for their texts, or with the same fault. What is read is what the
first seven tokens come to, also where the text is an ability's word, which is not cut into tokens
at all; and blanks at the ends of a text make no difference. -/
theorem parse_of_take_seven_eq (validation : Validation) (htokens : tokens text = .ok found)
    (htokens' : tokens text' = .ok found') (h : found.take 7 = found'.take 7) :
    parse validation text' = withText text' (parse validation text) ∧
      parse validation text = readTokens validation text (found.take 7) ∧
      ∀ before after : String, (∀ c ∈ before.toList, Text.isBlank c = true) →
        (∀ c ∈ after.toList, Text.isBlank c = true) →
          parse validation (before ++ text ++ after) =
            withText (before ++ text ++ after) (parse validation text) := by
  have hread {other : String} {others : List Token} (hothers : tokens other = .ok others)
      (halike : Alike 7 found others) :
      parse validation other = withText other (parse validation text) :=
    calc parse validation other
        = readTokens validation other others := parse_eq_readTokens hothers
      _ = readTokens validation other found := (readTokens_of_alike validation other halike).symm
      _ = withText other (readTokens validation text found) :=
          readTokens_text validation text other found
      _ = withText other (parse validation text) := by rw [parse_eq_readTokens htokens]
  refine ⟨hread htokens' h, ?_, fun before after hbefore hafter =>
    hread (tokens_padded htokens hbefore hafter) rfl⟩
  -- The first seven tokens are themselves a list that begins alike.
  have htake : Alike 7 found (found.take 7) := by
    rw [Alike, List.take_take, Nat.min_self]
  rw [parse_eq_readTokens htokens, readTokens_of_alike validation text htake]

/-- All seven tokens are read, and what comes after them is not: neither a group and a word that
would name a scope, nor a quoted literal. -/
theorem parse_of_take_seven_eq_crowded :
    let text := "tap? inc att 1 Bear creatureid all (x) global"
    let text' := " tap?\tinc att 1  Bear creatureid all\"y\""
    let seven : List Token := [.bare "tap?", .bare "inc", .bare "att", .bare "1", .bare "Bear",
      .bare "creatureid", .bare "all"]
    let found := seven ++ [.group ⟨["x"]⟩, .bare "global"]
    let found' := seven ++ [.quoted "y"]
    let instruction : Instruction :=
      { trigger := some "tap?", action := .increase, field := some "att", value := some (.int 1),
        name := some "Bear", needsCreature := true, scope := some .all, text }
    tokens text = .ok found ∧ tokens text' = .ok found' ∧ found.take 7 = found'.take 7 ∧
      parse .advisory text = .ok (some instruction) ∧
      parse .advisory text' = .ok (some { instruction with text := text' }) := by
  intro text text' seven found found' instruction
  have htokens : tokens text = .ok found := by decide
  have htokens' : tokens text' = .ok found' := by decide
  have hseven : found.take 7 = found'.take 7 := rfl
  have hinstruction : parse .advisory text = .ok (some instruction) := by decide
  have hread := (parse_of_take_seven_eq .advisory htokens htokens' hseven).1
  rw [hinstruction] at hread
  exact ⟨htokens, htokens', hseven, hinstruction, hread⟩

/-- The seventh token does matter: it is the scope of an instruction that has all slots. -/
example :
    let found : List Token := [.bare "tap?", .bare "inc", .bare "att", .bare "1", .bare "Bear",
      .bare "creatureid"]
    (ofTokens .advisory "" (found ++ [.bare "all"])).map (·.scope) = .ok (some .all) ∧
      (ofTokens .advisory "" (found ++ [.bare "global"])).map (·.scope) = .ok (some .global) :=
  ⟨rfl, rfl⟩

end Instruction

end CardEffects
