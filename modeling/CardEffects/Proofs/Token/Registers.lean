import CardEffects.Proofs.Token.Rendering

/-!
# A scanner in registers

What a scanner remembers can be laid out flat, with a register of its own for the pending word or
literal, for the inside of the pending group, for the number of open parentheses and for the offsets
at which a literal and a group began. No register says which of the others are in use, so that a
character is taken by looking at several of them, and many combinations make no sense. A scanner
with a mode has none of these; the two read every text alike.

* `Registers.step`: what one character does to the registers.
* `Registers.ofScanner`: the registers of a scanner with a mode.
* `Registers.run_ofScanner`: taking characters, the registers remain those of the scanner.
* `Registers.scan_eq`: reading with registers gives the tokens of a text, or the same error.
-/

namespace CardEffects

/-- What a scanner remembers in the middle of a text, in registers that can each hold anything.
Texts are held with their last character first. -/
structure Registers where
  /-- The number of characters read. -/
  position : ℕ := 0
  /-- The tokens completed so far, the last one first. -/
  tokens : List Token := []
  /-- The characters of the pending word or literal. -/
  current : List Char := []
  /-- The characters of the pending group, with one blank for each inner parenthesis. -/
  interior : List Char := []
  /-- The number of open parentheses. -/
  depth : ℕ := 0
  /-- The offset of the open quote. -/
  quoteStart : Option ℕ := none
  /-- The offset of the parenthesis that opened the last group. -/
  groupStart : ℕ := 0
deriving DecidableEq, Repr

namespace Registers

/-- The registers before the first character. -/
def start : Registers := {}

/-- Make the pending word or literal a token. It loses the blanks at its ends, and there is no token
if nothing is left. -/
def flush (registers : Registers) (make : String → Token) : Registers :=
  let text := Text.trim registers.current.reverse
  { registers with
    tokens :=
      if text.isEmpty then registers.tokens else make (String.ofList text) :: registers.tokens
    current := [] }

/-- Read one character. -/
def step (registers : Registers) (c : Char) : Except ScanError Registers :=
  let next := { registers with position := registers.position + 1 }
  -- A quote inside a group is a character like any other.
  if c = '"' ∧ registers.depth = 0 then
    match registers.quoteStart with
    | some _ => .ok { next.flush .quoted with quoteStart := none }
    | none => .ok { next.flush .bare with quoteStart := some registers.position }
  -- So is a parenthesis inside quotes.
  else if registers.quoteStart.isSome then
    .ok { next with current := c :: registers.current }
  else if c = '(' then
    if registers.depth = 0 then
      .ok { next.flush .bare with
        groupStart := registers.position, depth := registers.depth + 1 }
    else
      .ok { next with interior := ' ' :: registers.interior, depth := registers.depth + 1 }
  else if c = ')' then
    if registers.depth = 0 then
      .error ⟨.unmatchedClose, registers.position⟩
    -- Only the outermost parenthesis ends the group.
    else if registers.depth - 1 = 0 then
      .ok { next with
        tokens := .group (.ofText registers.interior.reverse) :: registers.tokens
        interior := []
        depth := registers.depth - 1 }
    else
      .ok { next with interior := ' ' :: registers.interior, depth := registers.depth - 1 }
  else if 0 < registers.depth then
    .ok { next with interior := c :: registers.interior }
  else if Text.isBlank c then
    .ok (next.flush .bare)
  else
    .ok { next with current := c :: registers.current }

/-- Read a text. -/
def run (registers : Registers) (text : List Char) : Except ScanError Registers :=
  text.foldlM step registers

theorem run_cons (registers : Registers) (c : Char) (text : List Char) :
    registers.run (c :: text) = (registers.step c).bind (·.run text) := rfl

/-- The tokens at the end of a text. Quotes and parentheses must be closed by then. -/
def finish (registers : Registers) : Except ScanError (List Token) :=
  match registers.quoteStart with
  | some offset => .error ⟨.unterminatedQuote, offset⟩
  | none =>
    if 0 < registers.depth then .error ⟨.unclosedGroup, registers.groupStart⟩
    else .ok (registers.flush .bare).tokens.reverse

/-- The registers of a scanner. Where it is in no group, the offset at which the last one began is
still there. -/
def ofScanner (last : ℕ) : Scanner → Registers
  | ⟨position, tokens, .bare pending⟩ =>
    { position, tokens, current := pending, groupStart := last }
  | ⟨position, tokens, .quoted opening pending⟩ =>
    { position, tokens, current := pending, quoteStart := some opening, groupStart := last }
  | ⟨position, tokens, .grouped opening inner pending⟩ =>
    { position, tokens, interior := pending, depth := inner + 1, groupStart := opening }

/-- The registers are those of the scanner. -/
def Holds (registers : Registers) (scanner : Scanner) : Prop :=
  ∃ last, registers = ofScanner last scanner

variable {scanner : Scanner}

/-! ## One character -/

/-- There are no blanks to lose at the ends of a word. -/
theorem flush_bare {position depth groupStart : ℕ} {tokens : List Token}
    {pending interior : List Char} {quoteStart : Option ℕ}
    (h : ∀ c ∈ pending, Token.IsWordChar c) :
    flush ⟨position, tokens, pending, interior, depth, quoteStart, groupStart⟩ .bare =
      ⟨position, Scanner.flushBare tokens pending, [], interior, depth, quoteStart,
        groupStart⟩ := by
  have htrimmed : Text.Trimmed pending.reverse := by
    constructor
    · intro c hc
      exact (h c (List.mem_reverse.1 (List.mem_of_mem_head? hc))).1
    · intro c hc
      exact (h c (List.mem_reverse.1 (List.mem_of_mem_getLast? hc))).1
  simp only [flush, Text.trim_eq_self htrimmed, List.isEmpty_reverse, Scanner.flushBare]

/-- A character that the scanner takes leads from its registers to those of the next scanner. -/
theorem step_of_step {c : Char} {scanner' : Scanner} (hstep : Scanner.Step scanner c scanner')
    (h : scanner.WellFormed) (last : ℕ) :
    ∃ last', (ofScanner last scanner).step c = .ok (ofScanner last' scanner') := by
  have hmode := h.mode
  cases hstep with
  -- What ends a word makes it a token, and there the two differ in whether they trim it.
  | openQuote =>
    refine ⟨last, ?_⟩
    simp only [step, ofScanner]
    rw [flush_bare hmode]
    rfl
  | openGroup =>
    refine ⟨last, ?_⟩
    simp only [step, ofScanner]
    rw [flush_bare hmode]
    rfl
  | @blank position tokens pending c hblank =>
    obtain ⟨hquote, hopen, hclose⟩ := Scanner.ne_of_isBlank hblank
    have hflush : (ofScanner last ⟨position, tokens, .bare pending⟩).step c =
        .ok (flush ⟨position + 1, tokens, pending, [], 0, none, last⟩ .bare) := by
      simp [step, ofScanner, hquote, hopen, hclose, hblank]
    rw [hflush, flush_bare hmode]
    exact ⟨last, rfl⟩
  | word hquote hopen hclose hblank =>
    exact ⟨last, by simp [step, ofScanner, hquote, hopen, hclose, hblank]⟩
  | closeQuote => exact ⟨last, rfl⟩
  | literal hquote => exact ⟨last, by simp [step, ofScanner, hquote]⟩
  | openInner => exact ⟨last, rfl⟩
  | closeInner => exact ⟨last, rfl⟩
  -- The offset of the group stays behind when the group is closed.
  | @closeGroup _ opening => exact ⟨opening, rfl⟩
  | inside hopen hclose => exact ⟨last, by simp [step, ofScanner, hopen, hclose]⟩

/-! ## Whole texts -/

/-- Taking characters, the registers of a scanner remain its registers, and they fail where it
fails. -/
theorem run_ofScanner (h : scanner.WellFormed) (last : ℕ) (text : List Char) :
    ∃ last', (ofScanner last scanner).run text = (scanner.run text).map (ofScanner last') := by
  -- On the text, for all scanners and all offsets that earlier groups may have left behind.
  induction text generalizing scanner last with
  | nil => exact ⟨last, rfl⟩
  | cons c text ih =>
    rw [run_cons]
    rcases Scanner.step_cases scanner c with ⟨scanner', hstep⟩ | ⟨rfl, pending, hmode⟩
    · obtain ⟨last', hregisters⟩ := step_of_step hstep h last
      rw [hregisters, hstep.run_cons]
      exact ih (hstep.wellFormed h) last'
    · -- Both blame a parenthesis that closes nothing.
      obtain ⟨position, tokens, mode⟩ := scanner
      cases hmode
      exact ⟨last, rfl⟩

/-- At the end of a text the registers of a scanner give what the scanner gives. -/
theorem finish_ofScanner (h : scanner.WellFormed) (last : ℕ) :
    (ofScanner last scanner).finish = scanner.finish := by
  obtain ⟨position, tokens, mode⟩ := scanner
  cases mode with
  | bare pending =>
    have hpending : ∀ c ∈ pending, Token.IsWordChar c := h.mode
    simp only [ofScanner, finish, flush_bare hpending]
    rfl
  | quoted opening pending => rfl
  | grouped opening inner pending => rfl

/-- Registers into which a text has been read from its start are those of the scanner there. -/
theorem exists_holds_of_run {registers : Registers} {read : List Char}
    (h : start.run read = .ok registers) :
    ∃ scanner, Scanner.start.run read = .ok scanner ∧ registers.Holds scanner := by
  obtain ⟨last, hrun⟩ := run_ofScanner Scanner.wellFormed_start 0 read
  have hstart : start.run read = (Scanner.start.run read).map (ofScanner last) := hrun
  rw [hstart] at h
  cases hscanner : Scanner.start.run read with
  | error error =>
    rw [hscanner] at h
    cases h
  | ok scanner =>
    rw [hscanner] at h
    cases h
    exact ⟨scanner, rfl, last, rfl⟩

/-- Reading a text with registers gives its tokens, or blames the same delimiter. -/
theorem scan_eq (text : List Char) : (start.run text).bind finish = Token.scan text := by
  obtain ⟨last, hrun⟩ := run_ofScanner Scanner.wellFormed_start 0 text
  have hstart : start = ofScanner 0 Scanner.start := rfl
  rw [hstart, hrun, Token.scan]
  cases hscanner : Scanner.start.run text with
  | error error => rfl
  | ok scanner =>
    have hscanner := Scanner.run_induction Scanner.Step.wellFormed hscanner Scanner.wellFormed_start
    exact finish_ofScanner hscanner last

end Registers

end CardEffects
