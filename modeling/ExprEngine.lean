import ExprEngine.Cost
import ExprEngine.Diagnostic
import ExprEngine.Environment
import ExprEngine.Expr.Annotation
import ExprEngine.Expr.Basic
import ExprEngine.Expr.Builder
import ExprEngine.Host.Data
import ExprEngine.Host.Namespace
import ExprEngine.Host.ObjectType
import ExprEngine.Host.Objects
import ExprEngine.Number.Checked
import ExprEngine.Number.Double
import ExprEngine.Number.Notation
import ExprEngine.Number.Reading
import ExprEngine.Number.Rounding
import ExprEngine.Number.Shortest
import ExprEngine.Overload.Basic
import ExprEngine.Overload.Dispatch
import ExprEngine.Overload.Operator
import ExprEngine.Overload.Registry
import ExprEngine.Overload.Standard
import ExprEngine.Plan.Basic
import ExprEngine.Plan.Bounds
import ExprEngine.Plan.Error
import ExprEngine.Plan.Evaluation
import ExprEngine.Plan.Folding
import ExprEngine.Plan.Interpretation
import ExprEngine.Plan.Planner
import ExprEngine.Plan.Resolution
import ExprEngine.Plan.Shown
import ExprEngine.Program
import ExprEngine.Proofs.Attribution.Failures
import ExprEngine.Proofs.Attribution.Plans
import ExprEngine.Proofs.Attribution.Steps
import ExprEngine.Proofs.Attribution.Value
import ExprEngine.Proofs.Collection.Denotation
import ExprEngine.Proofs.Collection.Function
import ExprEngine.Proofs.Collection.Macros
import ExprEngine.Proofs.Collection.Stopping
import ExprEngine.Proofs.Cost.Arithmetic
import ExprEngine.Proofs.Cost.Comparison
import ExprEngine.Proofs.Cost.Maximum
import ExprEngine.Proofs.Cost.Minimum
import ExprEngine.Proofs.Cost.Optimized
import ExprEngine.Proofs.Cost.Plans
import ExprEngine.Proofs.Cost.Thorough
import ExprEngine.Proofs.Cost.Work
import ExprEngine.Proofs.Evaluation.Demand
import ExprEngine.Proofs.Evaluation.Forced
import ExprEngine.Proofs.Evaluation.Keys
import ExprEngine.Proofs.Evaluation.Logs
import ExprEngine.Proofs.Evaluation.Scopes
import ExprEngine.Proofs.Evaluation.Steps
import ExprEngine.Proofs.Evaluation.Watch
import ExprEngine.Proofs.Expr.Everywhere
import ExprEngine.Proofs.Expr.Numbering
import ExprEngine.Proofs.Laziness.Course
import ExprEngine.Proofs.Laziness.Once
import ExprEngine.Proofs.Meaning.Alike
import ExprEngine.Proofs.Meaning.Basic
import ExprEngine.Proofs.Meaning.Branches
import ExprEngine.Proofs.Meaning.Flattening
import ExprEngine.Proofs.Meaning.Operation
import ExprEngine.Proofs.Meaning.Selection
import ExprEngine.Proofs.Number.Integral
import ExprEngine.Proofs.Number.Numerals
import ExprEngine.Proofs.Overload.Ambiguity
import ExprEngine.Proofs.Overload.Registration
import ExprEngine.Proofs.Partial.Completion
import ExprEngine.Proofs.Partial.Evaluation
import ExprEngine.Proofs.Partial.Iteration
import ExprEngine.Proofs.Partial.Loops
import ExprEngine.Proofs.Partial.Macros
import ExprEngine.Proofs.Partial.Steady
import ExprEngine.Proofs.Planning.Acceptance
import ExprEngine.Proofs.Planning.Annotation
import ExprEngine.Proofs.Planning.Congruence
import ExprEngine.Proofs.Planning.Decoration
import ExprEngine.Proofs.Planning.Exhaustion
import ExprEngine.Proofs.Planning.Folding
import ExprEngine.Proofs.Planning.Forced
import ExprEngine.Proofs.Planning.Hidden
import ExprEngine.Proofs.Planning.Interchange
import ExprEngine.Proofs.Planning.Made
import ExprEngine.Proofs.Planning.Optimization
import ExprEngine.Proofs.Planning.OwnNames
import ExprEngine.Proofs.Planning.Prepared
import ExprEngine.Proofs.Planning.Simulation
import ExprEngine.Proofs.Planning.Specialized
import ExprEngine.Proofs.Planning.Tracking
import ExprEngine.Proofs.Planning.Wrapping
import ExprEngine.Proofs.Record.Construction
import ExprEngine.Proofs.Recording.Completeness
import ExprEngine.Proofs.Recording.Entries
import ExprEngine.Proofs.Recording.Places
import ExprEngine.Proofs.Recording.Planned
import ExprEngine.Proofs.Recording.Values
import ExprEngine.Proofs.Renaming.Expressions
import ExprEngine.Proofs.Renaming.Folding
import ExprEngine.Proofs.Renaming.Hygiene
import ExprEngine.Proofs.Renaming.Plans
import ExprEngine.Proofs.Scope.Absolute
import ExprEngine.Proofs.Scope.Elements
import ExprEngine.Proofs.Scope.Marks
import ExprEngine.Proofs.Scope.Order
import ExprEngine.Proofs.Scope.Readings
import ExprEngine.Proofs.Strictness.Events
import ExprEngine.Proofs.Strictness.Propagation
import ExprEngine.Proofs.Time.Denotation
import ExprEngine.Proofs.Time.RoundTrip
import ExprEngine.Proofs.Time.Zone
import ExprEngine.Proofs.Value.Conversion
import ExprEngine.Proofs.Value.Document
import ExprEngine.Proofs.Value.Entries
import ExprEngine.Proofs.Value.Equality
import ExprEngine.Proofs.Value.Maps
import ExprEngine.Proofs.Value.Native
import ExprEngine.Proofs.Value.Order
import ExprEngine.Proofs.Value.Parts
import ExprEngine.Proofs.Value.Reordering
import ExprEngine.Proofs.Value.Unknowns
import ExprEngine.Proofs.Whole.Provider
import ExprEngine.Proofs.Whole.Standard
import ExprEngine.Proofs.Whole.Value
import ExprEngine.Regex.Assertion
import ExprEngine.Regex.Bracket
import ExprEngine.Regex.Escape
import ExprEngine.Regex.Flags
import ExprEngine.Regex.Machine
import ExprEngine.Regex.Move
import ExprEngine.Regex.Pattern
import ExprEngine.Regex.Property
import ExprEngine.Regex.Reading
import ExprEngine.Regex.Size
import ExprEngine.Run.Basic
import ExprEngine.Run.Recording
import ExprEngine.Run.Session
import ExprEngine.Scope.Basic
import ExprEngine.Scope.Pattern
import ExprEngine.Scope.Table
import ExprEngine.Text.Age
import ExprEngine.Text.ByteRange
import ExprEngine.Text.Bytes
import ExprEngine.Text.Casing
import ExprEngine.Text.Category
import ExprEngine.Text.Class
import ExprEngine.Text.CodePoints
import ExprEngine.Text.Emoji
import ExprEngine.Text.Folding
import ExprEngine.Text.GraphemeBreak
import ExprEngine.Text.Identifier
import ExprEngine.Text.Quoted
import ExprEngine.Text.Script
import ExprEngine.Text.ScriptExtension
import ExprEngine.Text.SentenceBreak
import ExprEngine.Text.Sign
import ExprEngine.Text.WordBreak
import ExprEngine.Time.Calendar
import ExprEngine.Time.Duration
import ExprEngine.Time.Stamp
import ExprEngine.Time.Timestamp
import ExprEngine.Time.Zone
import ExprEngine.Value.Access
import ExprEngine.Value.Arithmetic
import ExprEngine.Value.Basic
import ExprEngine.Value.Conversion
import ExprEngine.Value.Document
import ExprEngine.Value.Entries
import ExprEngine.Value.Equality
import ExprEngine.Value.Error
import ExprEngine.Value.Native
import ExprEngine.Value.Order
import ExprEngine.Value.Receiver
import ExprEngine.Value.Search
import ExprEngine.Value.Shown
import ExprEngine.Value.Type
import ExprEngine.Value.UnknownSet
