import CardEffects.Token.Scanner

/-!
# Faults of an instruction

Why a text is not an instruction. A `Fault` is the cause; an `Instruction.Error` adds the text it
was found in, exactly as it was given, to which the offsets of a fault refer.
-/

namespace CardEffects

/-- The slots that an instruction cannot leave open. -/
inductive RequiredSlot
  | action
  | field
  | value
  | ability
deriving DecidableEq, Repr

/-- What a slot is called in an error message. -/
def RequiredSlot.description : RequiredSlot → String
  | action => "action"
  | field => "field"
  | value => "value"
  | ability => "static ability"

/-- Why a text is not an instruction. -/
inductive Fault
  /-- The quotes or parentheses do not match. -/
  | unbalanced (error : ScanError)
  /-- The token in the place of the action names neither an action nor an ability. -/
  | unknownAction (word : String)
  /-- The token after `static` names no ability. -/
  | unknownAbility (word : String)
  /-- The trigger is outside the enforced list. -/
  | unknownTrigger (word : String)
  /-- The field is outside the enforced list. -/
  | unknownField (word : String)
  /-- A number was expected, and this is none or is out of range. -/
  | notInteger (word : String)
  /-- A slot that cannot be left open is. -/
  | missing (slot : RequiredSlot)
deriving DecidableEq, Repr

/-- What a fault says about its text, up to the text itself. -/
def Fault.description : Fault → String
  | unbalanced ⟨imbalance, offset⟩ =>
    "syntax error: " ++ imbalance.description ++ " at offset " ++ toString offset
  | unknownAction word => "unknown action `" ++ word ++ "`"
  | unknownAbility word => "unknown static ability `" ++ word ++ "`"
  | unknownTrigger word => "unknown trigger `" ++ word ++ "`"
  | unknownField word => "unknown field `" ++ word ++ "`"
  | notInteger word => "expected an integer, found `" ++ word ++ "`"
  | missing slot => "missing " ++ slot.description

/-- A text that is not an instruction, and why. -/
structure Instruction.Error where
  /-- The text as it was given. -/
  text : String
  /-- Why it is not an instruction. -/
  fault : Fault
deriving DecidableEq, Repr

/-- The error as a sentence. -/
def Instruction.Error.message (error : Instruction.Error) : String :=
  error.fault.description ++ " in `" ++ error.text ++ "`"

end CardEffects
