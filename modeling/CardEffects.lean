import CardEffects.Text.Blank
import CardEffects.Text.Segments
import CardEffects.Text.Numeral
import CardEffects.Keyword.Action
import CardEffects.Keyword.Ability
import CardEffects.Validation
import CardEffects.Token.Scanner
import CardEffects.Card.Record
import CardEffects.Registry
import CardEffects.Json.Instruction
import CardEffects.Json.Card
import CardEffects.Proofs.Text.Blank
import CardEffects.Proofs.Text.Numeral
import CardEffects.Proofs.Text.Segments
import CardEffects.Proofs.Token.Delimited
import CardEffects.Proofs.Token.Run
import CardEffects.Proofs.Token.Acceptance
import CardEffects.Proofs.Token.Rendering
import CardEffects.Proofs.Token.Composition
import CardEffects.Proofs.Instruction.Alternatives
import CardEffects.Proofs.Instruction.Reading
import CardEffects.Proofs.Instruction.Outcome
import CardEffects.Proofs.Instruction.Sentence
import CardEffects.Proofs.Instruction.RoundTrip
import CardEffects.Proofs.Instruction.Filling
import CardEffects.Proofs.Instruction.Quoted
import CardEffects.Proofs.Effect.Composition
import CardEffects.Proofs.Effect.Accounting
import CardEffects.Proofs.Effect.Separation
import CardEffects.Proofs.Registry.History
import CardEffects.Proofs.Registry.NextIdentity
import CardEffects.Proofs.Instruction.Shape
import CardEffects.Proofs.Effect.Filtered
import CardEffects.Proofs.Card.Grant
import CardEffects.Proofs.Card.Record
import CardEffects.Proofs.Registry.Entries
import CardEffects.Proofs.Registry.Provenance
import CardEffects.Proofs.Registry.Batch
import CardEffects.Proofs.Registry.Restoration
import CardEffects.Proofs.Instruction.Lookahead
import CardEffects.Proofs.Registry.Confinement
import CardEffects.Proofs.Registry.Tolerance
import CardEffects.Proofs.Json.Codec
import CardEffects.Proofs.Json.Rearrangement
import CardEffects.Proofs.Json.RoundTrip
import CardEffects.Proofs.Token.Span
import CardEffects.Proofs.Token.SpanTokens
import CardEffects.Proofs.Instruction.Triggered
import CardEffects.Proofs.Instruction.Number
import CardEffects.Proofs.Registry.Succession
import CardEffects.Proofs.Instruction.ListValue
import CardEffects.Proofs.Token.Coherence
