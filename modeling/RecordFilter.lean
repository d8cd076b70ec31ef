import RecordFilter.CommandLine.Arguments
import RecordFilter.CommandLine.Run
import RecordFilter.Criterion.Basic
import RecordFilter.Criterion.Constructors
import RecordFilter.Criterion.Registry
import RecordFilter.Engine.Basic
import RecordFilter.Engine.Batch
import RecordFilter.Engine.Report
import RecordFilter.Error
import RecordFilter.Evaluation.Criterion
import RecordFilter.Evaluation.Outcome
import RecordFilter.Evaluation.Plan
import RecordFilter.Evaluation.Workspace
import RecordFilter.Expression.Basic
import RecordFilter.Expression.Reader
import RecordFilter.Files
import RecordFilter.Json.Basic
import RecordFilter.Json.Layout
import RecordFilter.Json.Mismatch
import RecordFilter.Json.Reader
import RecordFilter.Json.Writer
import RecordFilter.Keyed
import RecordFilter.Main
import RecordFilter.Normalizer
import RecordFilter.Number.Basic
import RecordFilter.Number.Numeral
import RecordFilter.Number.Scaling
import RecordFilter.Number.Shortest
import RecordFilter.Operator.Basic
import RecordFilter.Operator.Place
import RecordFilter.Operator.Record
import RecordFilter.Operator.Scalar
import RecordFilter.Operator.Sequence
import RecordFilter.Operator.Text
import RecordFilter.Operator.Time
import RecordFilter.Operator.Vocabulary
import RecordFilter.Path
import RecordFilter.Proofs.Evaluation.Alone
import RecordFilter.Proofs.Evaluation.Listing
import RecordFilter.Proofs.Evaluation.Meaning
import RecordFilter.Proofs.Evaluation.Uniform
import RecordFilter.Proofs.Expression.Document
import RecordFilter.Proofs.Path.Collection
import RecordFilter.Regex.Basic
import RecordFilter.Regex.CharSet
import RecordFilter.Regex.ClassName
import RecordFilter.Regex.Meaning
import RecordFilter.Regex.Pattern
import RecordFilter.Regex.Reader
import RecordFilter.Regex.Size
import RecordFilter.Regex.Tree
import RecordFilter.Settings
import RecordFilter.Text.Age
import RecordFilter.Text.Break.Cluster
import RecordFilter.Text.Break.Sentence
import RecordFilter.Text.Break.Word
import RecordFilter.Text.CaseFold
import RecordFilter.Text.Category
import RecordFilter.Text.CodeSet
import RecordFilter.Text.CodeTable
import RecordFilter.Text.Decomposition
import RecordFilter.Text.Digits
import RecordFilter.Text.Fold
import RecordFilter.Text.LetterCase
import RecordFilter.Text.NamedSet
import RecordFilter.Text.Property
import RecordFilter.Text.Property.Casing
import RecordFilter.Text.Property.Emoji
import RecordFilter.Text.Property.Letter
import RecordFilter.Text.Property.Mark
import RecordFilter.Text.Property.Symbol
import RecordFilter.Text.Quoted
import RecordFilter.Text.Ranges
import RecordFilter.Text.Script
import RecordFilter.Text.Script.Shared
import RecordFilter.Text.Space
import RecordFilter.Text.Split
import RecordFilter.Text.Utf8
import RecordFilter.Time.Calendar
import RecordFilter.Time.Instant
import RecordFilter.Time.Reader
import RecordFilter.Value.Basic
import RecordFilter.Value.Containment
import RecordFilter.Value.Equality
import RecordFilter.Value.Fold
import RecordFilter.Value.Order
import RecordFilter.Value.Text
import RecordFilter.Proofs.Value.Equality
import RecordFilter.Proofs.Value.Order
import RecordFilter.Proofs.Engine.References
import RecordFilter.Proofs.Engine.Batch
import RecordFilter.Proofs.Text.Fold
import RecordFilter.Proofs.Value.Fold
import RecordFilter.Proofs.Path.Fold
import RecordFilter.Proofs.Evaluation.Folded
import RecordFilter.Proofs.Engine.Aliases
import RecordFilter.Proofs.CommandLine.AliasFiles
import RecordFilter.Proofs.Engine.Session
import RecordFilter.Proofs.Operator.Names
import RecordFilter.Proofs.Operator.Shape
import RecordFilter.Proofs.Operator.Denial
import RecordFilter.Proofs.Evaluation.Subjects
import RecordFilter.Proofs.Evaluation.Keys
import RecordFilter.Proofs.Evaluation.Patterns
import RecordFilter.Proofs.Json.Line
import RecordFilter.Proofs.CommandLine.Stages
import RecordFilter.Proofs.CommandLine.Answers
import RecordFilter.Proofs.Value.Ascending
import RecordFilter.Proofs.Operator.Members
import RecordFilter.Proofs.Evaluation.FanOut
import RecordFilter.Proofs.Text.Part
import RecordFilter.Proofs.Text.Words
import RecordFilter.Proofs.Operator.Part
import RecordFilter.Proofs.Evaluation.Matches
import RecordFilter.Proofs.Value.Congruence
import RecordFilter.Proofs.Engine.Resolution
import RecordFilter.Proofs.Expression.Parts
import RecordFilter.Proofs.Value.Containment
import RecordFilter.Proofs.Operator.Submap
import RecordFilter.Proofs.Operator.Congruence
import RecordFilter.Proofs.Expression.Faults
import RecordFilter.Proofs.Expression.Declared
import RecordFilter.Proofs.Evaluation.Mapped
import RecordFilter.Proofs.Operator.Instants
import RecordFilter.Proofs.Number.Rounding
import RecordFilter.Proofs.Value.Json
import RecordFilter.Proofs.Number.Shortest
import RecordFilter.Proofs.Number.Scaling
import RecordFilter.Proofs.Json.Numeral
import RecordFilter.Proofs.Json.RoundTrip
import RecordFilter.Proofs.CommandLine.RecordFiles
import RecordFilter.Proofs.Value.Building
import RecordFilter.Proofs.Normalizer.Memory
import RecordFilter.Proofs.Path.Dotted
