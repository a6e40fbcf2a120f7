import CardEffects.Instruction.Parse

/-!
# Effects

The effect of a card is a text that holds instructions with a semicolon between them. Segments
without tokens are passed over, every other segment is one instruction, and the first segment that
is not an instruction makes the whole text no effect.

* `Effect.parse`: the instructions of an effect text in order.
* `Effect.Error`: which segment is not an instruction, and why.
-/

namespace CardEffects.Effect

/-- A segment of an effect text that is not an instruction. -/
structure Error where
  /-- The number of segments before it, those without tokens included. -/
  index : Nat
  /-- The segment without the blanks at its ends. -/
  segment : String
  /-- Why it is not an instruction. -/
  source : Instruction.Error
deriving DecidableEq, Repr

/-- The error as a sentence. -/
def Error.message (error : Error) : String :=
  "instruction " ++ toString error.index ++ " (`" ++ error.segment ++ "`): " ++
    error.source.message

/-- The character between two instructions. -/
def separator : Char := ';'

/-- The instruction of the segment with the given index, if it holds one. -/
def parseSegment (validation : Validation) (index : Nat) (segment : String) :
    Except Error (Option Instruction) :=
  let text := String.ofList (Text.trim segment.toList)
  (Instruction.parse validation text).mapError fun source => ⟨index, text, source⟩

/-- The instructions of a list of segments, of which the first has the given index. -/
def parseSegments (validation : Validation) :
    Nat → List String → Except Error (List Instruction)
  | _, [] => .ok []
  | index, segment :: rest =>
    match parseSegment validation index segment with
    | .error error => .error error
    | .ok found => (parseSegments validation (index + 1) rest).map (found.toList ++ ·)

/-- The instructions of an effect text. -/
def parse (validation : Validation) (text : String) : Except Error (List Instruction) :=
  parseSegments validation 0 (Text.segments separator text)

/-- The instructions of an effect text that may be absent; an absent text holds none. -/
def parseOptional (validation : Validation) (text : Option String) :
    Except Error (List Instruction) :=
  text.elim (.ok []) (parse validation)

end CardEffects.Effect
