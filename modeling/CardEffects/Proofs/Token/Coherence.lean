import CardEffects.Proofs.Token.Registers
import Mathlib.Data.Int.Notation

/-!
# Coherent registers

The registers of a scanner could each hold anything, but after a text is read they fit together and
fit the text: at most one of the pending texts is in use, it is made of the characters that belong
there, and the offsets and the depth say where in the text the scanner stands. All of this is plain
for a scanner with a mode, whose registers they are.

* `Scanner.Follows`: where in the text that has been read the mode of a scanner began.
* `Registers.Coherent`: registers fit together and fit the text that has been read.
* `Registers.coherent_of_run`: after every text that can be read they do.
-/

namespace CardEffects

namespace Scanner

/-- The mode is the one that the text leads to. Since the open quote the text is what is pending;
since the outermost open parenthesis as many more have been opened than closed as are open inside
it. -/
def Mode.Follows (read : List Char) : Mode → Prop
  | .bare _ => True
  | .quoted opening pending => ∃ before, read = before ++ '"' :: pending.reverse ∧
      before.length = opening
  | .grouped opening inner _ => ∃ before inside, read = before ++ '(' :: inside ∧
      before.length = opening ∧ inner + inside.count ')' = inside.count '('

/-- The scanner stands where the text ends. -/
structure Follows (read : List Char) (scanner : Scanner) : Prop where
  position_eq : scanner.position = read.length
  mode : scanner.mode.Follows read

theorem follows_start : start.Follows [] :=
  ⟨rfl, trivial⟩

/-- Inside a group the count of the parentheses goes on with every character. -/
theorem Mode.Follows.append_singleton {read pending pending' : List Char}
    {opening inner inner' : ℕ} {c : Char} (h : Follows read (.grouped opening inner pending))
    (hinner : inner' + [c].count ')' = inner + [c].count '(') :
    Follows (read ++ [c]) (.grouped opening inner' pending') := by
  obtain ⟨before, inside, rfl, hlength, hcount⟩ := h
  refine ⟨before, inside ++ [c], by simp, hlength, ?_⟩
  rw [List.count_append, List.count_append]
  omega

/-- Every way of taking a character leads on in the text. -/
theorem Step.follows {read : List Char} {scanner scanner' : Scanner} {c : Char}
    (hstep : Step scanner c scanner') (h : scanner.Follows read) :
    scanner'.Follows (read ++ [c]) := by
  obtain ⟨hposition, hmode⟩ := h
  refine ⟨?_, ?_⟩
  · rw [List.length_append, List.length_singleton, ← hposition]
    cases hstep <;> rfl
  cases hstep with
  | openQuote => exact ⟨read, rfl, hposition.symm⟩
  | openGroup => exact ⟨read, [], rfl, hposition.symm, rfl⟩
  | blank | word | closeQuote | closeGroup => exact trivial
  | literal hquote =>
    obtain ⟨before, rfl, hlength⟩ := hmode
    exact ⟨before, by simp, hlength⟩
  | openInner => exact hmode.append_singleton rfl
  | closeInner => exact hmode.append_singleton rfl
  | inside hopen hclose =>
    exact hmode.append_singleton (by simp [hopen, hclose])

end Scanner

namespace Registers

/-- The registers fit together and fit the text that has been read. Inside quotes no parenthesis is
open, and while one is open there is no quote open and no word pending; outside of groups no inside
of a group is pending. What is pending is made of the characters that belong there. The offsets of
an open quote and of an open group are those of a quote and a parenthesis in the text, and the depth
is how many more parentheses have been opened than closed from there on. -/
structure Coherent (registers : Registers) (read : List Char) : Prop where
  position_eq : registers.position = read.length
  depth_of_quote : registers.quoteStart.isSome → registers.depth = 0
  quote_of_depth : 0 < registers.depth → registers.quoteStart = none
  current_of_depth : 0 < registers.depth → registers.current = []
  interior_of_depth : registers.depth = 0 → registers.interior = []
  word : registers.quoteStart = none → ∀ c ∈ registers.current,
    Text.isBlank c = false ∧ c ≠ '"' ∧ c ≠ '(' ∧ c ≠ ')'
  literal : registers.quoteStart.isSome → '"' ∉ registers.current
  group : ∀ c ∈ registers.interior, c ≠ '(' ∧ c ≠ ')'
  depth_eq : 0 < registers.depth → (registers.depth : ℤ) =
    (read.drop registers.groupStart).count '(' - (read.drop registers.groupStart).count ')'
  depth_le : registers.depth ≤ read.length
  quoteStart_eq : ∀ offset, registers.quoteStart = some offset → read[offset]? = some '"'
  groupStart_eq : 0 < registers.depth → read[registers.groupStart]? = some '('

variable {scanner : Scanner} {registers : Registers} {read : List Char}

/-- The registers of a scanner are coherent. -/
theorem coherent_ofScanner (h : scanner.WellFormed) (hfollows : scanner.Follows read) (last : ℕ) :
    (ofScanner last scanner).Coherent read := by
  obtain ⟨position, tokens, mode⟩ := scanner
  obtain ⟨hposition, hmode⟩ := hfollows
  have hpending := h.mode
  cases mode with
  | bare pending =>
    exact {
      position_eq := hposition
      depth_of_quote := nofun
      quote_of_depth := nofun
      current_of_depth := nofun
      interior_of_depth := fun _ => rfl
      word := fun _ => hpending
      literal := nofun
      group := nofun
      depth_eq := nofun
      depth_le := Nat.zero_le _
      quoteStart_eq := nofun
      groupStart_eq := nofun }
  | quoted opening pending =>
    obtain ⟨before, rfl, rfl⟩ := hmode
    exact {
      position_eq := hposition
      depth_of_quote := fun _ => rfl
      quote_of_depth := nofun
      current_of_depth := nofun
      interior_of_depth := fun _ => rfl
      word := nofun
      literal := fun _ => hpending
      group := nofun
      depth_eq := nofun
      depth_le := Nat.zero_le _
      quoteStart_eq := by
        rintro _ ⟨⟩
        simp
      groupStart_eq := nofun }
  | grouped opening inner pending =>
    obtain ⟨before, inside, rfl, rfl, hcount⟩ := hmode
    -- The parenthesis that opened the group is one of those that are open.
    have hdepth : ((inner + 1 : ℕ) : ℤ) =
        ('(' :: inside).count '(' - ('(' :: inside).count ')' := by
      rw [List.count_cons_self, List.count_cons_of_ne (by decide)]
      omega
    have hle : inner + 1 ≤ (before ++ '(' :: inside).length := by
      have hcount_le : inside.count '(' ≤ inside.length := List.count_le_length
      rw [List.length_append, List.length_cons]
      omega
    exact {
      position_eq := hposition
      depth_of_quote := nofun
      quote_of_depth := fun _ => rfl
      current_of_depth := fun _ => rfl
      interior_of_depth := nofun
      word := nofun
      literal := nofun
      group := hpending
      depth_eq := fun _ => by
        rw [ofScanner, List.drop_left]
        exact hdepth
      depth_le := hle
      quoteStart_eq := nofun
      groupStart_eq := fun _ => by simp [ofScanner] }

/-- Where a parenthesis is closed the depth goes down by one, so there was one to close. -/
theorem depth_of_step_close {next : Registers} (hstep : registers.step ')' = .ok next)
    (hquote : registers.quoteStart = none) : next.depth + 1 = registers.depth := by
  obtain ⟨position, tokens, current, interior, depth, quoteStart, groupStart⟩ := registers
  cases hquote
  rcases depth with _ | _ | inner <;> cases hstep <;> rfl

/-- Registers into which a text has been read up to some character are coherent with the text up to
there, they are those of the scanner there, and a parenthesis that they take as a closing one lowers
the depth by exactly one. To the end they give the tokens of the text, or blame the same
delimiter. -/
theorem coherent_of_run (text : List Char) :
    (∀ count registers, start.run (text.take count) = .ok registers →
      registers.Coherent (text.take count) ∧
      (∃ scanner, Scanner.start.run (text.take count) = .ok scanner ∧ registers.Holds scanner) ∧
      ∀ next, registers.step ')' = .ok next → registers.quoteStart = none →
        next.depth + 1 = registers.depth) ∧
    (start.run text).bind finish = Token.scan text := by
  refine ⟨fun count registers hrun => ?_, scan_eq text⟩
  -- What the registers satisfy, they satisfy as those of a scanner with a mode.
  obtain ⟨scanner, hscanner, last, rfl⟩ := exists_holds_of_run hrun
  have hwellFormed :=
    Scanner.run_induction Scanner.Step.wellFormed hscanner Scanner.wellFormed_start
  have hfollows := Scanner.run_induction_reading Scanner.Step.follows hscanner []
    Scanner.follows_start
  exact ⟨coherent_ofScanner hwellFormed hfollows last, ⟨scanner, hscanner, last, rfl⟩,
    fun _ => depth_of_step_close⟩

/-- Two parentheses are open after a group and a literal with parentheses in it. -/
theorem coherent_of_run_nested :
    let text := "do (it) \"(\" (a \"(b) c)".toList
    ∃ registers, start.run (text.take 18) = .ok registers ∧ registers.depth = 2 ∧
      registers.groupStart = 12 ∧ registers.interior = ['b', ' ', '"', ' ', 'a'] ∧
      registers.Coherent (text.take 18) :=
  ⟨_, rfl, rfl, rfl, rfl, ((coherent_of_run _).1 18 _ rfl).1⟩

end Registers

end CardEffects
