import SignificantFigures.Contract.Lexed
import SignificantFigures.Expression.Entry
import SignificantFigures.Expression.Fields
import SignificantFigures.Expression.Reader
import SignificantFigures.Value.Literal
import SignificantFigures.Workspace.Record
import SignificantFigures.Proofs.Double.Nearest
import SignificantFigures.Proofs.Decimal.Nearest
import SignificantFigures.Proofs.Double.Reads
import SignificantFigures.Proofs.Decade
import SignificantFigures.Proofs.Decimal.Rounding
import SignificantFigures.Proofs.Double.Places
import SignificantFigures.Proofs.Quantity.Rounding
import SignificantFigures.Proofs.Numeral.Literal
import SignificantFigures.Proofs.Numeral.Figures
import SignificantFigures.Proofs.Numeral.Digits
import SignificantFigures.Proofs.Quantity.Literal
import SignificantFigures.Proofs.Double.Text
import SignificantFigures.Proofs.Quantity.Display
import SignificantFigures.Proofs.Quantity.RoundTrip
import SignificantFigures.Proofs.Expression.Scan
import SignificantFigures.Proofs.Expression.Reader
import SignificantFigures.Proofs.Contract.Schema
import SignificantFigures.Proofs.Contract.RoundTrip
import SignificantFigures.Proofs.Quantity.Formula
import SignificantFigures.Proofs.Expression.QuantityForm
import SignificantFigures.Proofs.Expression.Literal
import SignificantFigures.Proofs.Contract.Stream
import SignificantFigures.Proofs.Workspace.Run
import SignificantFigures.Proofs.Quantity.Accepted
import SignificantFigures.Proofs.Quantity.LiteralPlace
import SignificantFigures.Proofs.Quantity.DisplayForm
import SignificantFigures.Proofs.Quantity.DisplayPrecision
import SignificantFigures.Proofs.Expression.Concatenation
import SignificantFigures.Proofs.Contract.Formats
import SignificantFigures.Proofs.Contract.StreamOrder
import SignificantFigures.Proofs.Quantity.ExactText
import SignificantFigures.Proofs.Expression.Layout
import SignificantFigures.Proofs.Expression.Readers
import SignificantFigures.Proofs.Double.Arithmetic
import SignificantFigures.Proofs.Quantity.Arithmetic
import SignificantFigures.Proofs.Workspace.Combine
import SignificantFigures.Proofs.Contract.Restore
import SignificantFigures.Proofs.Workspace.Construction
import SignificantFigures.Proofs.Numeral.Scientific
import SignificantFigures.Proofs.Quantity.Scientific
import SignificantFigures.Proofs.Quantity.ScientificValue
import SignificantFigures.Proofs.Quantity.Limits
import SignificantFigures.Proofs.Value.Decade
import SignificantFigures.Proofs.Double.Order
import SignificantFigures.Proofs.Value.Rounding
import SignificantFigures.Proofs.Numeral.FigurePattern
import SignificantFigures.Proofs.Text.Pattern
import SignificantFigures.Proofs.Numeral.Count
import SignificantFigures.Proofs.Expression.LexemePattern
import SignificantFigures.Proofs.Expression.Longest
import SignificantFigures.Proofs.Quantity.Equality
import SignificantFigures.Proofs.Quantity.Laws
import SignificantFigures.Proofs.Expression.Fields
import SignificantFigures.Proofs.Contract.Fields
import SignificantFigures.Proofs.Double.Ties
import SignificantFigures.Proofs.Numeral.Pattern
import SignificantFigures.Proofs.Numeral.Leading
