import Promptline.CommandLine.Arguments
import Promptline.CommandLine.Command
import Promptline.CommandLine.Report
import Promptline.CommandLine.Run
import Promptline.Compose
import Promptline.Context
import Promptline.Context.File
import Promptline.Context.Record
import Promptline.Context.Snapshot
import Promptline.Document
import Promptline.Document.Calls
import Promptline.Document.Fault
import Promptline.Document.File
import Promptline.Document.Json
import Promptline.Document.Table
import Promptline.Document.Toml
import Promptline.Document.Toml.Scalar
import Promptline.Document.Toml.Text
import Promptline.Document.Toml.Tree
import Promptline.Document.Yaml
import Promptline.Document.Yaml.Cursor
import Promptline.Document.Yaml.Lexer
import Promptline.Document.Yaml.Node
import Promptline.Document.Yaml.Scalar
import Promptline.Document.Yaml.Text
import Promptline.Document.Yaml.Token
import Promptline.Entries
import Promptline.Evaluate
import Promptline.Expression.Lexer
import Promptline.Expression.Node
import Promptline.Expression.Parser
import Promptline.Expression.Token
import Promptline.File.Path
import Promptline.File.Tree
import Promptline.Function.Arithmetic
import Promptline.Function.Comparison
import Promptline.Function.Fault
import Promptline.Function.Operand
import Promptline.Function.Registry
import Promptline.Function.Textual
import Promptline.Host
import Promptline.Log
import Promptline.Main
import Promptline.Moment
import Promptline.Moment.Layout
import Promptline.Moment.Reading
import Promptline.Moment.Strict
import Promptline.Number.Decimal
import Promptline.Number.Double
import Promptline.Number.Limit
import Promptline.Number.Notation
import Promptline.Number.Read
import Promptline.Number.Round
import Promptline.ParseError
import Promptline.Resolve.Cache
import Promptline.Resolve.Issue
import Promptline.Resolve.Resolver
import Promptline.Segment.Derived
import Promptline.Segment.Location
import Promptline.Segment.Properties
import Promptline.Segment.Resolved
import Promptline.Settings
import Promptline.Settings.Layers
import Promptline.Settings.Start
import Promptline.Settings.Variables
import Promptline.Template.Item
import Promptline.Template.Parser
import Promptline.Template.Part
import Promptline.Terminal
import Promptline.Terminal.Picture
import Promptline.Terminal.Width
import Promptline.Text.Blank
import Promptline.Text.Case
import Promptline.Text.CharSet
import Promptline.Text.Digit
import Promptline.Text.JsonString
import Promptline.Text.Pieces
import Promptline.Text.Printable
import Promptline.Text.Quoted
import Promptline.Text.Word
import Promptline.Theme
import Promptline.Theme.File
import Promptline.Theme.Reading
import Promptline.Validation.Checked
import Promptline.Validation.Scalar
import Promptline.Value
import Promptline.Proofs.Answer
import Promptline.Proofs.Resolve.Memory
import Promptline.Proofs.Resolve.Session
import Promptline.Proofs.Repository.Visible
import Promptline.Proofs.Repository.Evaluation
import Promptline.Proofs.Repository.Noninterference
import Promptline.Proofs.Expression.LongInteger
import Promptline.Proofs.Resolve.Answers
import Promptline.Proofs.Template.Locality
import Promptline.Proofs.Template.Scanning
import Promptline.Proofs.Template.Concatenation
import Promptline.Proofs.Resolve.Concatenation
import Promptline.Proofs.Template.Keyword
import Promptline.Proofs.Template.Grammar
import Promptline.Proofs.Expression.Grammar
import Promptline.Proofs.Expression.Inert
import Promptline.Proofs.Template.Placeholder
import Promptline.Proofs.Resolve.Placeholder
import Promptline.Proofs.Template.Prefix
import Promptline.Proofs.Template.Recovery
import Promptline.Proofs.Resolve.Recovery
import Promptline.Proofs.Template.Source
import Promptline.Proofs.Resolve.Places
import Promptline.Proofs.Resolve.Marker
import Promptline.Proofs.Context.Fields
import Promptline.Proofs.Context.Layering
import Promptline.Proofs.Context.Consistency
import Promptline.Proofs.Validation.Given
import Promptline.Proofs.Entries
import Promptline.Proofs.Context.Dump
import Promptline.Proofs.Text.JsonString
import Promptline.Proofs.Number.Integer
import Promptline.Proofs.Expression.Literal
import Promptline.Proofs.Resolve.Literal
import Promptline.Proofs.Segment.Mentions
import Promptline.Proofs.Segment.Isolation
import Promptline.Proofs.Document.Merge
import Promptline.Proofs.Document.Calls
import Promptline.Proofs.Document.Toml.Text
import Promptline.Proofs.Document.Toml.Scalar
import Promptline.Proofs.Document.Toml.Reading
import Promptline.Proofs.Settings.Variables
import Promptline.Proofs.Settings.Layers
import Promptline.Proofs.Document.Toml.Limits
import Promptline.Proofs.Settings.Start
import Promptline.Proofs.Settings.Options
import Promptline.Proofs.Validation.Explained
import Promptline.Proofs.Settings.Sections
import Promptline.Proofs.Document.Set
import Promptline.Proofs.Text.Split
import Promptline.Proofs.Settings.Order
import Promptline.Proofs.Segment.Issues
import Promptline.Proofs.CommandLine.Output
import Promptline.Proofs.Document.Json
import Promptline.Proofs.CommandLine.Context
import Promptline.Proofs.Expression.Separated
import Promptline.Proofs.Expression.Piping
import Promptline.Proofs.Template.Spaced
import Promptline.Proofs.Template.Bare
import Promptline.Proofs.Template.Trimming
import Promptline.Proofs.Template.Nesting
import Promptline.Proofs.Template.Ladder
import Promptline.Proofs.Resolve.Ladder
import Promptline.Proofs.Evaluation.Paths
import Promptline.Proofs.Evaluation.Logic
import Promptline.Proofs.Number.Place
import Promptline.Proofs.Function.Comparison
import Promptline.Proofs.Number.NearestEven
import Promptline.Proofs.Number.Decimal
import Promptline.Proofs.Number.Shortest
import Promptline.Proofs.Function.Rounding
import Promptline.Proofs.Document.Absorption
import Promptline.Proofs.Segment.Declarations
import Promptline.Proofs.Compose.Stripping
import Promptline.Proofs.Segment.Properties
import Promptline.Proofs.Segment.Location
import Promptline.Proofs.Compose.Layout
import Promptline.Proofs.Text.Lower
import Promptline.Proofs.Settings.Nesting
import Promptline.Proofs.Settings.DottedKey
import Promptline.Proofs.Moment.Year
import Promptline.Proofs.Template.Literal
import Promptline.Proofs.Segment.Derived
import Promptline.Proofs.Segment.Kind
import Promptline.Proofs.Expression.Pattern
import Promptline.Proofs.Expression.Tiling
import Promptline.Proofs.Expression.Spacing
import Promptline.Proofs.Template.Tiling
import Promptline.Proofs.Evaluation.Missing
