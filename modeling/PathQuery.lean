import PathQuery.Compilation
import PathQuery.Evaluation
import PathQuery.Json.Reader
import PathQuery.Path.Equality
import PathQuery.Path.Grammar.Depth
import PathQuery.Path.Printer
import PathQuery.Path.Report
import PathQuery.Proofs.Compilation
import PathQuery.Proofs.Decimal
import PathQuery.Proofs.Node
import PathQuery.Proofs.Numeral
import PathQuery.Proofs.Path.Equality
import PathQuery.Proofs.Path.Follow
import PathQuery.Proofs.Path.Lexeme
import PathQuery.Proofs.Path.Normal
import PathQuery.Proofs.Path.RoundTrip
import PathQuery.Proofs.Path.Shape
import PathQuery.Proofs.Pointer
import PathQuery.Proofs.Text.Quoted
import PathQuery.Proofs.Graft
import PathQuery.Proofs.Path.Settled
import PathQuery.Cursor
import PathQuery.Path.Scan
import PathQuery.Proofs.Cursor
import PathQuery.Proofs.Numeral.Cut
import PathQuery.Proofs.Path.Scan
import PathQuery.Proofs.Double.Scientific
import PathQuery.Proofs.Double.Shortest
import PathQuery.Proofs.Operand
import PathQuery.Proofs.Path.Meaning
import PathQuery.Proofs.Composition
import PathQuery.Proofs.Slice
import PathQuery.Proofs.Descent
import PathQuery.Proofs.Distinct
import PathQuery.Proofs.Comparison.Integers
import PathQuery.Proofs.NodeList
import PathQuery.Proofs.Pattern.Whole
import PathQuery.Proofs.Operand.Interchange
import PathQuery.Proofs.Path.Image
import PathQuery.Proofs.Slice.Exact
import PathQuery.Proofs.Path.Extends
import PathQuery.Proofs.Path.Precedence
import PathQuery.Proofs.JsonPointer
import PathQuery.Proofs.Path.Argument
import PathQuery.Proofs.Path.Concatenation
import PathQuery.Proofs.Path.Spacing
import PathQuery.Proofs.Text.Utf16
import PathQuery.Proofs.Numeral.Form
import PathQuery.Proofs.Path.Number
