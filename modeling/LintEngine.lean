import LintEngine.Application
import LintEngine.CommandLine.Arguments
import LintEngine.CommandLine.Basic
import LintEngine.CommandLine.Documentation
import LintEngine.CommandLine.Tool
import LintEngine.Configuration.Basic
import LintEngine.Configuration.Load
import LintEngine.Configuration.Resolve
import LintEngine.Document.Basic
import LintEngine.Document.Load
import LintEngine.Document.Preprocess
import LintEngine.Error
import LintEngine.FileTree.Basic
import LintEngine.Glob.Basic
import LintEngine.Glob.Match
import LintEngine.Jsonc.Reader
import LintEngine.Jsonc.Token
import LintEngine.Lint
import LintEngine.Linter.Basic
import LintEngine.Linter.BuiltIn
import LintEngine.Linter.LineLength
import LintEngine.Linter.NoTodo
import LintEngine.Linter.Registry
import LintEngine.Linter.Scripted
import LintEngine.Linter.TrailingWhitespace
import LintEngine.Location
import LintEngine.Main
import LintEngine.Number.Decimal
import LintEngine.Number.Duration
import LintEngine.Number.Scaled
import LintEngine.Number.Shortest
import LintEngine.Options.Kind
import LintEngine.Options.Schema
import LintEngine.ParseError
import LintEngine.Path.Basic
import LintEngine.Plugin
import LintEngine.Report.Basic
import LintEngine.Report.Checkstyle
import LintEngine.Report.Formatter
import LintEngine.Report.Json
import LintEngine.Report.Output
import LintEngine.Report.Plain
import LintEngine.Run.Basic
import LintEngine.Run.Event
import LintEngine.Run.Job
import LintEngine.Run.Options
import LintEngine.Run.Schedule
import LintEngine.Search
import LintEngine.Selection
import LintEngine.Severity
import LintEngine.Shell.Arithmetic
import LintEngine.Shell.Awk.Basic
import LintEngine.Shell.Awk.Parser
import LintEngine.Shell.Awk.Record
import LintEngine.Shell.Awk.State
import LintEngine.Shell.Awk.Syntax
import LintEngine.Shell.Awk.Table
import LintEngine.Shell.Awk.Token
import LintEngine.Shell.Awk.Value
import LintEngine.Shell.Basic
import LintEngine.Shell.Builtin
import LintEngine.Shell.Bytes
import LintEngine.Shell.Expansion
import LintEngine.Shell.Machine
import LintEngine.Shell.Numeral
import LintEngine.Shell.Parser
import LintEngine.Shell.Pattern
import LintEngine.Shell.Regex
import LintEngine.Shell.Signal
import LintEngine.Shell.StreamEditor.Basic
import LintEngine.Shell.StreamEditor.Script
import LintEngine.Shell.Syntax
import LintEngine.Shell.Utility.Columns
import LintEngine.Shell.Utility.Concatenate
import LintEngine.Shell.Utility.Condition
import LintEngine.Shell.Utility.Count
import LintEngine.Shell.Utility.Encode
import LintEngine.Shell.Utility.Evaluate
import LintEngine.Shell.Utility.Files
import LintEngine.Shell.Utility.Launch
import LintEngine.Shell.Utility.LineSearch
import LintEngine.Shell.Utility.Print
import LintEngine.Shell.Utility.Sequence
import LintEngine.Shell.Utility.Sorting
import LintEngine.Shell.Utility.Table
import LintEngine.Shell.Utility.Translate
import LintEngine.Shell.Utility.Work
import LintEngine.Text.Ascii
import LintEngine.Text.Blank
import LintEngine.Text.Capital
import LintEngine.Text.Encoding
import LintEngine.Text.Hidden
import LintEngine.Text.Letter
import LintEngine.Text.Lines
import LintEngine.Text.Quoted
import LintEngine.Value.Basic
import LintEngine.Value.Json
import LintEngine.Value.Merge
import LintEngine.Yaml.Cursor
import LintEngine.Yaml.Event
import LintEngine.Yaml.Reader
import LintEngine.Yaml.Scalar
import LintEngine.Yaml.Token
import LintEngine.Proofs.Fields
import LintEngine.Proofs.Merge
import LintEngine.Proofs.Result
import LintEngine.Proofs.Reading
import LintEngine.Proofs.References
import LintEngine.Proofs.Trails
import LintEngine.Proofs.Segments
import LintEngine.Proofs.Spelling
import LintEngine.Proofs.Cycles
import LintEngine.Proofs.Precedence
import LintEngine.Proofs.LintOrder
import LintEngine.Proofs.Workers
import LintEngine.Proofs.Activation
import LintEngine.Proofs.FoundFiles
import LintEngine.Proofs.Related
import LintEngine.Proofs.Loading
import LintEngine.Proofs.Jobs
import LintEngine.Proofs.Notifications
import LintEngine.Proofs.Isolation
import LintEngine.Proofs.Accounting
import LintEngine.Proofs.Registration
import LintEngine.Proofs.Components
import LintEngine.Proofs.Verdicts
import LintEngine.Proofs.Walks
import LintEngine.Proofs.Discovery
import LintEngine.Proofs.Exclusion
import LintEngine.Proofs.KeyPaths
import LintEngine.Proofs.Grouping
import LintEngine.Proofs.Markup
import LintEngine.Proofs.Selecting
import LintEngine.Proofs.Finishing
import LintEngine.Proofs.Summary
import LintEngine.Proofs.Validation
import LintEngine.Proofs.TypedOptions
import LintEngine.Proofs.SuffixPatterns
import LintEngine.Proofs.DefaultSearch
import LintEngine.Proofs.PluginOrder
import LintEngine.Proofs.JsonReport
import LintEngine.Proofs.Severities
import LintEngine.Proofs.LiteralHeads
import LintEngine.Proofs.PatternSearch
import LintEngine.Proofs.Attributes
import LintEngine.Proofs.OutputRequests
import LintEngine.Proofs.LineScans
import LintEngine.Proofs.Markers
import LintEngine.Proofs.Positions
import LintEngine.Proofs.LeadingDots
import LintEngine.Proofs.LineEndings
import LintEngine.Proofs.Reuse
import LintEngine.Proofs.WorkerCounts
