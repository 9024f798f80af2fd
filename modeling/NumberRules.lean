import NumberRules.Command.Directory
import NumberRules.Main
import NumberRules.Regex.Basic
import NumberRules.Proofs.Plural.Grammar
import NumberRules.Proofs.Text.Blank
import NumberRules.Proofs.Plural.Tokens
import NumberRules.Proofs.Except
import NumberRules.Proofs.Plural.Reader
import NumberRules.Proofs.Plural.Acceptance
import NumberRules.Proofs.Plural.RoundTrip
import NumberRules.Proofs.Double.Rounding
import NumberRules.Proofs.Double.Whole
import NumberRules.Proofs.Spelling.Keys
import NumberRules.Proofs.Spelling.RuleSets
import NumberRules.Proofs.Spelling.Positional
import NumberRules.Proofs.Double.Nearest
import NumberRules.Proofs.Numeral.Decimal
import NumberRules.Proofs.Numeral.Exact
import NumberRules.Proofs.Plural.Used
import NumberRules.Proofs.Spelling.Calls
import NumberRules.Proofs.Spelling.Reach
import NumberRules.Proofs.Spelling.References
import NumberRules.Proofs.Spelling.Parts
import NumberRules.Proofs.Spelling.Depth
import NumberRules.Proofs.Spelling.Halving
import NumberRules.Proofs.Spelling.Powers
import NumberRules.Proofs.Spelling.Divisors
import NumberRules.Proofs.Cache
import NumberRules.Proofs.Double.Floor
import NumberRules.Proofs.Double.Order
import NumberRules.Proofs.Spelling.Selection
import NumberRules.Proofs.Spelling.RuleOrder
import NumberRules.Proofs.Command.Checking
import NumberRules.Proofs.Spelling.Body.RoundTrip
import NumberRules.Proofs.Double.NearestWhole
import NumberRules.Proofs.Double.Shortest
import NumberRules.Proofs.Double.Finite
import NumberRules.Proofs.Numeral.Written
import NumberRules.Proofs.Plural.Integers
import NumberRules.Proofs.Spelling.Recomposition
import NumberRules.Proofs.Spelling.Handing
import NumberRules.Proofs.Spelling.Finiteness
import NumberRules.Proofs.Command.Loading
import NumberRules.Proofs.Plural.Completion
import NumberRules.Proofs.Plural.ErrorPosition
import NumberRules.Proofs.Spelling.Meaning
import NumberRules.Proofs.Spelling.Legality
import NumberRules.Proofs.Spelling.Listing
import NumberRules.Proofs.Spelling.FirstFault
import NumberRules.Proofs.Plural.LeadingInteger
import NumberRules.Proofs.Numeral.Grammar
import NumberRules.Proofs.Double.Fixed
import NumberRules.Proofs.Spelling.PlainText
import NumberRules.Proofs.Spelling.Body.Respelling
import NumberRules.Proofs.Spelling.Arrows
import NumberRules.Proofs.Plural.Classes
import NumberRules.Proofs.Text.Bytes
import NumberRules.Proofs.Text.Lines
import NumberRules.Proofs.Spelling.Body.Stops
import NumberRules.Proofs.Diagnostic.Causes
import NumberRules.Proofs.Diagnostic.Labels
import NumberRules.Proofs.Diagnostic.Bounds
import NumberRules.Proofs.Diagnostic.Position
import NumberRules.Proofs.Text.Edits
import NumberRules.Proofs.Suggestion
import NumberRules.Proofs.Spelling.BaseValues
