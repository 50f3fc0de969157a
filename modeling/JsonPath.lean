import JsonPath.Text.Quoted
import JsonPath.Text.Reader
import JsonPath.Unicode.Script
import JsonPath.Unicode.Fold
import JsonPath.Token
import JsonPath.Token.Lexer
import JsonPath.Token.Literal
import JsonPath.Number.Binary
import JsonPath.Number.Layout
import JsonPath.Number.Nearest
import JsonPath.Json
import JsonPath.Json.Reader
import JsonPath.Json.Text
import JsonPath.Query
import JsonPath.Query.Builder
import JsonPath.Query.Printer
import JsonPath.Query.Parser
import JsonPath.Regex.CharSet
import JsonPath.Regex.Match
import JsonPath.Regex.Bracket
import JsonPath.Regex.Parser
import JsonPath.Regex.Cache
import JsonPath.Value
import JsonPath.Value.Comparison
import JsonPath.Function
import JsonPath.Function.Builtin
import JsonPath.Query.Indices
import JsonPath.Evaluation
import JsonPath.Prepared
import JsonPath.Output
import JsonPath.Disk
import JsonPath.Disk.Files
import JsonPath.Manual
import JsonPath.CommandLine
import JsonPath.Main
import JsonPath.Regex.Slots
import JsonPath.Regex.Term
import JsonPath.Unicode.Utf8
import JsonPath.Proofs.Octets
import JsonPath.Proofs.Numeral
import JsonPath.Proofs.Number.Rounding
import JsonPath.Proofs.Number.Shortest
import JsonPath.Proofs.Number.Bits
import JsonPath.Proofs.Number.Decimal
import JsonPath.Proofs.Number.Layout
import JsonPath.Proofs.Lexing
import JsonPath.Proofs.Lexing.Literal
import JsonPath.Proofs.Quoting
import JsonPath.Proofs.Lexing.Lexeme
import JsonPath.Proofs.Lexing.Cut
import JsonPath.Proofs.Spelling
import JsonPath.Proofs.Cursor
import JsonPath.Proofs.Grammar
import JsonPath.Proofs.Reading.Program
import JsonPath.Proofs.Reading
import JsonPath.Proofs.Grammar.Soundness
import JsonPath.Proofs.Grammar.Completeness
import JsonPath.Proofs.Grammar.Decision
import JsonPath.Proofs.Grammar.Canonical
import JsonPath.Proofs.Rereading
import JsonPath.Proofs.Regrouping
import JsonPath.Proofs.Regrouping.Chains
import JsonPath.Proofs.Regrouping.Selectors
import JsonPath.Proofs.Regrouping.Operands
import JsonPath.Proofs.Regrouping.Arguments
import JsonPath.Proofs.Regrouping.Reading
import JsonPath.Proofs.Regrouping.Phrases
import JsonPath.Proofs.Brackets
import JsonPath.Proofs.Regrouping.Meaning
import JsonPath.Proofs.Regrouping.Outline
import JsonPath.Proofs.Regrouping.Loss
import JsonPath.Proofs.Cancellation
import JsonPath.Proofs.Steps
import JsonPath.Proofs.Outcome
import JsonPath.Proofs.Embedding
import JsonPath.Proofs.Composition
import JsonPath.Proofs.Singular
import JsonPath.Proofs.Guarded
import JsonPath.Proofs.Hazards
import JsonPath.Proofs.Regex.Suffixes
import JsonPath.Proofs.Regex.Enclosed
import JsonPath.Proofs.Regex.Enclosed.Signs
import JsonPath.Proofs.Regex.Meaning
import JsonPath.Proofs.Regex.BreakingOut
import JsonPath.Proofs.Regex.Anchoring
import JsonPath.Proofs.Lexing.Division
import JsonPath.Proofs.Lexing.Recognition
import JsonPath.Proofs.Grammar.Known
import JsonPath.Proofs.Malformed
import JsonPath.Proofs.Parameters
import JsonPath.Proofs.Completion
import JsonPath.Proofs.Number.Order
import JsonPath.Proofs.Slicing
import JsonPath.Proofs.Comparison
import JsonPath.Proofs.Locations
import JsonPath.Proofs.Descent
import JsonPath.Proofs.Reading.Orderly
import JsonPath.Proofs.Faults
import JsonPath.Proofs.Filtering
import JsonPath.Proofs.Scoping
import JsonPath.Proofs.Highlighting
import JsonPath.Proofs.Arguments
import JsonPath.Proofs.Building
import JsonPath.Proofs.Regex.Adapting
import JsonPath.Proofs.CutOff
import JsonPath.Proofs.Regex.Sharing
import JsonPath.Proofs.Regex.Fitting
import JsonPath.Proofs.Regex.Classes
import JsonPath.Proofs.Scripts
import JsonPath.Proofs.Halting
import JsonPath.Proofs.Inside
import JsonPath.Proofs.Number.Large
import JsonPath.Proofs.Number.Nodes
import JsonPath.Proofs.Lexing.Signs
import JsonPath.Proofs.Octets.Course
import JsonPath.Proofs.Lexing.Lookahead
import JsonPath.Proofs.Lexing.Spacing
