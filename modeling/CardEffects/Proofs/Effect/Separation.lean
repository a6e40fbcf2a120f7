import CardEffects.Proofs.Effect.Accounting
import CardEffects.Proofs.Text.Segments

/-!
# Separators stand outside of all delimiters

An effect text is cut at its separators before anything is known of quotes and parentheses, which a
separator could stand between. In an effect none does: a literal or a group that was cut would leave
a segment whose delimiters do not match. So the scanner of tokens could as well have gone over the
whole text, with a blank for each separator.

* `Delimited.intercalate`: texts whose delimiters match can be joined by any plain character.
* `Token.scan_intercalate`: joined by spaces they have the tokens of each, in order.
* `Effect.parse_separates`: the two for the segments of an effect.
-/

namespace CardEffects

/-- The scanner is outside of all delimiters: no quote is open, and no parenthesis. -/
def Scanner.IsOutside (scanner : Scanner) : Prop :=
  ∃ pending, scanner.mode = .bare pending

/-- If every member of a list is related to something, the list is related to some list. -/
theorem exists_forall₂ {α β : Type} {R : α → β → Prop} {l : List α}
    (h : ∀ a ∈ l, ∃ b, R a b) : ∃ l', List.Forall₂ R l l' := by
  induction l with
  | nil => exact ⟨[], .nil⟩
  | cons a l ih =>
    rw [List.forall_mem_cons] at h
    obtain ⟨b, hb⟩ := h.1
    obtain ⟨l', hl'⟩ := ih h.2
    exact ⟨b :: l', .cons hb hl'⟩

/-- Joined by a character that is no delimiter, texts with matching delimiters have matching
ones. -/
theorem Delimited.intercalate {c : Char} (hquote : c ≠ '"') (hopen : c ≠ '(') (hclose : c ≠ ')')
    {texts : List (List Char)} (h : ∀ text ∈ texts, Delimited text) :
    Delimited ([c].intercalate texts) := by
  induction texts with
  | nil => exact .nil
  | cons text texts ih =>
    rw [List.forall_mem_cons] at h
    cases texts with
    | nil => simpa using h.1
    | cons next texts =>
      rw [List.intercalate_cons_cons, List.append_assoc]
      exact h.1.append (.plain hquote hopen hclose (ih h.2))

/-- Texts that stand one space apart have the tokens of each, in order. -/
theorem Token.scan_intercalate {texts : List (List Char)} {lists : List (List Token)}
    (h : List.Forall₂ (fun text found => Token.scan text = .ok found) texts lists) :
    Token.scan ([' '].intercalate texts) = .ok lists.flatten := by
  induction h with
  | nil => rfl
  | @cons text found texts lists htext hrest ih =>
    cases hrest with
    | nil => simpa using htext
    | cons hnext hrest =>
      rw [List.intercalate_cons_cons, List.append_assoc, List.singleton_append,
        scan_append_blank htext (by decide), ih]
      rfl

namespace Effect

/-- An effect text with a space for each separator. -/
def blankSeparators (text : String) : String :=
  String.ofList (text.toList.map fun c => if c = separator then ' ' else c)

variable {validation : Validation} {text : String} {found : List Instruction}

/-- A segment has the tokens of its trimmed form. -/
theorem tokens_of_trimmed {segment : String} {tokens : List Token}
    (h : Instruction.tokens (trimmed segment) = .ok tokens) :
    Instruction.tokens segment = .ok tokens := by
  rw [Instruction.tokens_eq_ok_iff, trimmed, String.toList_ofList] at h
  rw [Instruction.tokens_eq_ok_iff, Token.scan_trim, h]
  rfl

/-- In every segment of an effect the delimiters match. -/
theorem exists_tokens_of_mem_segments (h : parse validation text = .ok found) :
    ∀ segment ∈ text.toList.splitOn separator, ∃ tokens, Token.scan segment = .ok tokens := by
  intro segment hmem
  have hmem' : trimmed (String.ofList segment) ∈ trimmedSegments text :=
    List.mem_map_of_mem (List.mem_map_of_mem hmem)
  obtain ⟨result, hresult⟩ := exists_parse_of_parseSegments h _ hmem'
  obtain ⟨tokens, htokens⟩ := Instruction.exists_tokens_of_parse hresult
  have hscan := Instruction.tokens_eq_ok_iff.1 (tokens_of_trimmed htokens)
  rw [String.toList_ofList] at hscan
  exact ⟨tokens, hscan⟩

/-- Before a separator of an effect all delimiters match. -/
theorem delimited_of_parse (h : parse validation text = .ok found) {before after : List Char}
    (htext : text.toList = before ++ separator :: after) : Delimited before := by
  have hsegments : ∀ segment ∈ before.splitOn separator, Delimited segment := by
    intro segment hmem
    refine Token.scan_ok_iff.1 (exists_tokens_of_mem_segments h segment ?_)
    rw [htext, Text.splitOn_append_cons]
    exact List.mem_append_left _ hmem
  -- The separators that are joined back in are plain characters to the scanner.
  have hjoined : [separator].intercalate (before.splitOn separator) = before :=
    List.intercalate_splitOn separator
  rw [← hjoined]
  exact Delimited.intercalate (by decide) (by decide) (by decide) hsegments

/-- The tokens of an effect text, with a space for each separator, are those of its segments. -/
theorem exists_tokens_blankSeparators (h : parse validation text = .ok found) :
    ∃ lists, List.Forall₂ (fun segment tokens => Instruction.tokens segment = .ok tokens)
        (Text.segments separator text) lists ∧
      Instruction.tokens (blankSeparators text) = .ok lists.flatten := by
  obtain ⟨lists, hlists⟩ := exists_forall₂ (exists_tokens_of_mem_segments h)
  refine ⟨lists, ?_, ?_⟩
  · rw [Text.segments, List.forall₂_map_left_iff]
    simpa only [Instruction.tokens_eq_ok_iff, String.toList_ofList] using hlists
  · rw [Instruction.tokens_eq_ok_iff, blankSeparators, String.toList_ofList,
      ← Text.intercalate_splitOn_eq_map]
    exact Token.scan_intercalate hlists

/-- No separator of an effect stands inside a literal or a group. The scanner that comes to one from
the start of the text, over any separators before it, is outside of all delimiters; and with a space
for each separator the text has the tokens of its segments, in order. -/
theorem parse_separates (h : parse validation text = .ok found) :
    (∀ before after, text.toList = before ++ separator :: after →
        ∃ scanner, Scanner.start.run before = .ok scanner ∧ scanner.IsOutside) ∧
      ∃ lists, List.Forall₂ (fun segment tokens => Instruction.tokens segment = .ok tokens)
          (Text.segments separator text) lists ∧
        Instruction.tokens (blankSeparators text) = .ok lists.flatten := by
  refine ⟨fun before after htext => ?_, exists_tokens_blankSeparators h⟩
  obtain ⟨tokens, pending, hrun⟩ :=
    Scanner.passes_of_delimited (delimited_of_parse h htext) 0 [] []
  exact ⟨_, hrun, pending, rfl⟩

/-- Neither the parenthesis inside the literal nor the quote inside the group is open at the
separator. -/
theorem parse_separates_create :
    ∃ found lists, parse .strict "create \"(\" (a \"b); draw" = .ok found ∧
      (∃ scanner, Scanner.start.run "create \"(\" (a \"b)".toList = .ok scanner ∧
        scanner.IsOutside) ∧
      List.Forall₂ (fun segment tokens => Instruction.tokens segment = .ok tokens)
        ["create \"(\" (a \"b)", " draw"] lists ∧
      Instruction.tokens "create \"(\" (a \"b)  draw" = .ok lists.flatten := by
  have hparse : parse .strict "create \"(\" (a \"b); draw" = .ok
      [{ action := .create
         value := some (.text "(")
         text := "create \"(\" (a \"b)" },
       { action := .draw
         amount := some 1
         text := "draw" }] := rfl
  obtain ⟨houtside, lists, hlists, htokens⟩ := parse_separates hparse
  exact ⟨_, lists, hparse, houtside _ " draw".toList rfl, hlists, htokens⟩

/-- A separator inside a literal is refused with the quote before it, though another quote
follows. -/
example :
    parse .advisory "create \"a;b\"" = .error
      ⟨0, "create \"a", ⟨"create \"a", .unbalanced ⟨.unterminatedQuote, 7⟩⟩⟩ := rfl

end Effect

end CardEffects
