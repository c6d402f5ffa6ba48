import Hindsight.Aggregate.Accumulator
import Hindsight.Aggregate.Deque
import Hindsight.Aggregate.Grouped
import Hindsight.Aggregate.Ordered
import Hindsight.Aggregate.Totals
import Hindsight.Dict
import Hindsight.Engine.Basic
import Hindsight.Engine.Builder
import Hindsight.Engine.RequestJson
import Hindsight.Engine.SettingsJson
import Hindsight.Eval.Error
import Hindsight.Eval.Formula
import Hindsight.Eval.Function
import Hindsight.Eval.Operation
import Hindsight.Event.Basic
import Hindsight.Event.Json
import Hindsight.Event.Schema
import Hindsight.Event.SchemaJson
import Hindsight.Expr.Basic
import Hindsight.Expr.Description
import Hindsight.Expr.Error
import Hindsight.Expr.Json
import Hindsight.Expr.Operator
import Hindsight.Expr.Parser
import Hindsight.Expr.Token
import Hindsight.Json.Basic
import Hindsight.Json.Decode
import Hindsight.Json.Number
import Hindsight.Json.Reader
import Hindsight.Json.Writer
import Hindsight.Number.Reading
import Hindsight.Number.Shortest
import Hindsight.Number.Word
import Hindsight.Observation.Point
import Hindsight.Observation.PointJson
import Hindsight.Observation.Sample
import Hindsight.Observation.Sampling
import Hindsight.Observation.SamplingJson
import Hindsight.Plan.AggregateFunction
import Hindsight.Plan.Binding
import Hindsight.Plan.Compile
import Hindsight.Plan.Error
import Hindsight.Plan.Formula
import Hindsight.Plan.Json
import Hindsight.Plan.Lowering
import Hindsight.Plan.Placement
import Hindsight.Plan.ScalarFunction
import Hindsight.Plan.Typing
import Hindsight.Plan.ValueType
import Hindsight.Proofs.Aggregate.Accumulator
import Hindsight.Proofs.Aggregate.Deque
import Hindsight.Proofs.Aggregate.Eviction
import Hindsight.Proofs.Aggregate.Extreme
import Hindsight.Proofs.Aggregate.FirstRun
import Hindsight.Proofs.Aggregate.Grouped
import Hindsight.Proofs.Aggregate.Identity
import Hindsight.Proofs.Aggregate.MergingGroups
import Hindsight.Proofs.Aggregate.Moments
import Hindsight.Proofs.Aggregate.Positional
import Hindsight.Proofs.Aggregate.Retraction
import Hindsight.Proofs.Aggregate.Series
import Hindsight.Proofs.Aggregate.TakingBack
import Hindsight.Proofs.Dict
import Hindsight.Proofs.Eval.ContextFree
import Hindsight.Proofs.Eval.Contribution
import Hindsight.Proofs.Eval.Membership
import Hindsight.Proofs.Eval.Operation
import Hindsight.Proofs.Eval.Parts
import Hindsight.Proofs.Eval.Pinned
import Hindsight.Proofs.Eval.Sources
import Hindsight.Proofs.Event.Flattening
import Hindsight.Proofs.Event.Json
import Hindsight.Proofs.Event.Learning
import Hindsight.Proofs.Except
import Hindsight.Proofs.Expr.Canonical
import Hindsight.Proofs.Expr.Faults
import Hindsight.Proofs.Expr.Levels
import Hindsight.Proofs.Expr.Margins
import Hindsight.Proofs.Expr.Phrases
import Hindsight.Proofs.Expr.Positions
import Hindsight.Proofs.Expr.Printing
import Hindsight.Proofs.Expr.RoundTrip
import Hindsight.Proofs.Expr.Spans
import Hindsight.Proofs.Expr.Spelling
import Hindsight.Proofs.Json.Decode
import Hindsight.Proofs.Json.Nesting
import Hindsight.Proofs.Json.Number
import Hindsight.Proofs.Json.Path
import Hindsight.Proofs.Json.Scalars
import Hindsight.Proofs.Json.Text
import Hindsight.Proofs.Observation.Arrival
import Hindsight.Proofs.Observation.Even
import Hindsight.Proofs.Observation.Matching
import Hindsight.Proofs.Observation.Order
import Hindsight.Proofs.Observation.Shape
import Hindsight.Proofs.Observation.Steps
import Hindsight.Proofs.Plan.Binding
import Hindsight.Proofs.Plan.Compile
import Hindsight.Proofs.Plan.Conditions
import Hindsight.Proofs.Plan.Json
import Hindsight.Proofs.Plan.Literals
import Hindsight.Proofs.Plan.Lowering
import Hindsight.Proofs.Plan.Refusal
import Hindsight.Proofs.Plan.Requests
import Hindsight.Proofs.Plan.Typing
import Hindsight.Proofs.Plan.Unknown
import Hindsight.Proofs.Query.Accounts
import Hindsight.Proofs.Query.Agreement
import Hindsight.Proofs.Query.Candidates
import Hindsight.Proofs.Query.Counting
import Hindsight.Proofs.Query.Drops
import Hindsight.Proofs.Query.Entries
import Hindsight.Proofs.Query.Extremes
import Hindsight.Proofs.Query.Failure
import Hindsight.Proofs.Query.Following
import Hindsight.Proofs.Query.Group
import Hindsight.Proofs.Query.Hidden
import Hindsight.Proofs.Query.Isolation
import Hindsight.Proofs.Query.Lookahead
import Hindsight.Proofs.Query.Partition
import Hindsight.Proofs.Query.Pointwise
import Hindsight.Proofs.Query.Pruning
import Hindsight.Proofs.Query.QueryLookahead
import Hindsight.Proofs.Query.Ranking
import Hindsight.Proofs.Query.Reading
import Hindsight.Proofs.Query.Rearrangement
import Hindsight.Proofs.Query.RowObjects
import Hindsight.Proofs.Query.Rows
import Hindsight.Proofs.Query.Typing
import Hindsight.Proofs.Query.Visits
import Hindsight.Proofs.Store.Acceptance
import Hindsight.Proofs.Store.Arrival
import Hindsight.Proofs.Store.Conformance
import Hindsight.Proofs.Store.Growth
import Hindsight.Proofs.Store.Intake
import Hindsight.Proofs.Store.Leniency
import Hindsight.Proofs.Store.Reachable
import Hindsight.Proofs.Store.Redaction
import Hindsight.Proofs.Store.Representation
import Hindsight.Proofs.Store.Segment
import Hindsight.Proofs.Store.Selection
import Hindsight.Proofs.Text.Digits
import Hindsight.Proofs.Time.Calendar
import Hindsight.Proofs.Time.Instant
import Hindsight.Proofs.Time.Text
import Hindsight.Proofs.Time.Tiling
import Hindsight.Proofs.Time.Window
import Hindsight.Proofs.Value.Display
import Hindsight.Proofs.Value.Json
import Hindsight.Proofs.Value.Order
import Hindsight.Query.Candidates
import Hindsight.Query.Options
import Hindsight.Query.OptionsJson
import Hindsight.Query.Rescan
import Hindsight.Query.Run
import Hindsight.Query.Slide
import Hindsight.Query.Table
import Hindsight.Regex.Basic
import Hindsight.Regex.Bracket
import Hindsight.Regex.Escape
import Hindsight.Regex.Flags
import Hindsight.Regex.Machine
import Hindsight.Regex.Match
import Hindsight.Regex.Reader
import Hindsight.Regex.Size
import Hindsight.Regex.Source
import Hindsight.Store.Index
import Hindsight.Store.Intake
import Hindsight.Store.Timeline
import Hindsight.Text.Basic
import Hindsight.Text.ByteRange
import Hindsight.Text.Case
import Hindsight.Text.CaseTable
import Hindsight.Text.CharSet
import Hindsight.Text.CodeRun
import Hindsight.Text.Listing
import Hindsight.Time.Calendar
import Hindsight.Time.Instant
import Hindsight.Time.Json
import Hindsight.Time.Pattern
import Hindsight.Time.Text
import Hindsight.Time.Unit
import Hindsight.Time.Window
import Hindsight.Unicode.AgeTable
import Hindsight.Unicode.Break
import Hindsight.Unicode.Category
import Hindsight.Unicode.CategoryTable
import Hindsight.Unicode.Fold
import Hindsight.Unicode.Named
import Hindsight.Unicode.Property
import Hindsight.Unicode.PropertyTable
import Hindsight.Unicode.Recent
import Hindsight.Unicode.ScriptTable
import Hindsight.Value.Basic
import Hindsight.Value.Json
import Hindsight.Value.Kind
