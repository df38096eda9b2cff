import TreePath.Command
import TreePath.Json.Printer
import TreePath.Main
import TreePath.Scanner
import TreePath.Typed.Shelf
import TreePath.Proofs.Query.Findings
import TreePath.Proofs.Script.Meaning
import TreePath.Proofs.Path.Legible
import TreePath.Proofs.Number.Scaling
import TreePath.Proofs.Reading.Numeral
import TreePath.Proofs.Number.Shortest
import TreePath.Proofs.Path.Bracket
import TreePath.Proofs.Script.Reading
import TreePath.Proofs.Script.Operation
import TreePath.Proofs.Path.RoundTrip
import TreePath.Proofs.Path.Grammar
import TreePath.Proofs.Script.Precedence
import TreePath.Proofs.Script.Enclosing
import TreePath.Proofs.Script.Layout
import TreePath.Proofs.Script.Stuck
import TreePath.Proofs.Script.Spacing
import TreePath.Proofs.Script.Evaluation
import TreePath.Proofs.Edit.Targets
import TreePath.Proofs.Edit.Operations
import TreePath.Proofs.Edit.Resolution
import TreePath.Proofs.Edit.Following
import TreePath.Proofs.Edit.Outcome
import TreePath.Proofs.Edit.Logging
import TreePath.Proofs.Edit.Running
import TreePath.Proofs.Query.Sites
import TreePath.Proofs.Edit.Failure
import TreePath.Proofs.Edit.First
import TreePath.Proofs.Edit.Calls
import TreePath.Proofs.Edit.Choices
import TreePath.Proofs.Edit.Errors
import TreePath.Proofs.Edit.Matches
import TreePath.Proofs.Edit.Once
import TreePath.Proofs.Edit.Sequence
import TreePath.Proofs.Edit.Layers
import TreePath.Proofs.Edit.Single
import TreePath.Proofs.Edit.Partial
import TreePath.Proofs.Query.Composition
import TreePath.Proofs.Value.Order
import TreePath.Proofs.Edit.Order
import TreePath.Proofs.Edit.Selection
import TreePath.Proofs.Edit.Rereading
import TreePath.Proofs.Edit.Rewriting
import TreePath.Proofs.Regex.Places
import TreePath.Proofs.Regex.Spans
import TreePath.Proofs.Regex.Simplified
import TreePath.Proofs.Regex.Items
import TreePath.Proofs.Regex.Enclosed
import TreePath.Proofs.Script.Matching
import TreePath.Proofs.Edit.Turns
import TreePath.Proofs.Edit.Remains
import TreePath.Proofs.Edit.Apart
import TreePath.Proofs.Edit.Mapping
import TreePath.Proofs.Path.Progression
import TreePath.Proofs.Query.Distinct
import TreePath.Proofs.Number.Comparison
import TreePath.Proofs.Script.Comparison
import TreePath.Proofs.Number.Conversion
import TreePath.Proofs.Number.Whole
import TreePath.Proofs.Number.Vanishing
import TreePath.Proofs.Reading.Position
import TreePath.Proofs.Reading.Scanning
import TreePath.Proofs.Number.Bounded
import TreePath.Proofs.Query.Throughout
import TreePath.Proofs.Json.Conversion
import TreePath.Proofs.Script.Finite
