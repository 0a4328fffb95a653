import LineBasic.CommandLine.Arguments
import LineBasic.CommandLine.Basic
import LineBasic.Fault
import LineBasic.Function.Math
import LineBasic.Function.Standard
import LineBasic.Function.Strings
import LineBasic.Function.Table
import LineBasic.Host.Basic
import LineBasic.Host.Clock
import LineBasic.Host.Console
import LineBasic.Host.Cpu
import LineBasic.Host.Files
import LineBasic.Host.Random
import LineBasic.Host.Reader
import LineBasic.Main
import LineBasic.Memory.Grid
import LineBasic.Memory.Variables
import LineBasic.Number.Binary
import LineBasic.Number.Exponential
import LineBasic.Number.Format
import LineBasic.Number.Power
import LineBasic.Number.Reader
import LineBasic.Number.Shortest
import LineBasic.Number.Trigonometry
import LineBasic.Program.Code
import LineBasic.Program.Listing
import LineBasic.Program.Record
import LineBasic.Proofs.Function.Hosts
import LineBasic.Proofs.Function.Registered
import LineBasic.Proofs.Function.Search
import LineBasic.Proofs.Function.Slices
import LineBasic.Proofs.Function.Standard
import LineBasic.Proofs.Host.Cpu
import LineBasic.Proofs.Host.Files
import LineBasic.Proofs.Memory.Grid
import LineBasic.Proofs.Memory.History
import LineBasic.Proofs.Memory.Shapes
import LineBasic.Proofs.Number.Naturals
import LineBasic.Proofs.Number.Negation
import LineBasic.Proofs.Program.Compile
import LineBasic.Proofs.Program.Edits
import LineBasic.Proofs.Program.Order
import LineBasic.Proofs.Program.Records
import LineBasic.Proofs.Program.RoundTrip
import LineBasic.Proofs.Run.Companions
import LineBasic.Proofs.Run.Confined
import LineBasic.Proofs.Run.CutShort
import LineBasic.Proofs.Run.Execution
import LineBasic.Proofs.Run.Faulted
import LineBasic.Proofs.Run.Heedless
import LineBasic.Proofs.Run.Loops
import LineBasic.Proofs.Run.Panics
import LineBasic.Proofs.Run.Places
import LineBasic.Proofs.Run.Renumbered
import LineBasic.Proofs.Run.Reports
import LineBasic.Proofs.Run.Resolution
import LineBasic.Proofs.Run.SignsApart
import LineBasic.Proofs.Run.Stacks
import LineBasic.Proofs.Run.Steps
import LineBasic.Proofs.Run.Straight
import LineBasic.Proofs.Run.Subroutines
import LineBasic.Proofs.Run.Touches
import LineBasic.Proofs.Run.Tracing
import LineBasic.Proofs.Run.Whole
import LineBasic.Proofs.Session.Columns
import LineBasic.Proofs.Session.Commands
import LineBasic.Proofs.Session.Dialogue
import LineBasic.Proofs.Session.Ranges
import LineBasic.Proofs.Session.Settled
import LineBasic.Proofs.Session.Typing
import LineBasic.Proofs.Session.Unsaved
import LineBasic.Proofs.Session.Workspace
import LineBasic.Proofs.Settings.Environment
import LineBasic.Proofs.Syntax.Colons
import LineBasic.Proofs.Syntax.Dimensions
import LineBasic.Proofs.Syntax.Expressions
import LineBasic.Proofs.Syntax.Folding
import LineBasic.Proofs.Syntax.Grammar
import LineBasic.Proofs.Syntax.LetterCase
import LineBasic.Proofs.Syntax.Limit
import LineBasic.Proofs.Syntax.Lines
import LineBasic.Proofs.Syntax.LookAhead
import LineBasic.Proofs.Syntax.Progress
import LineBasic.Proofs.Syntax.Reading
import LineBasic.Proofs.Syntax.Recased
import LineBasic.Proofs.Syntax.Refolding
import LineBasic.Proofs.Syntax.Resolved
import LineBasic.Proofs.Syntax.Scanning
import LineBasic.Proofs.Syntax.SignTokens
import LineBasic.Proofs.Syntax.Spacing
import LineBasic.Proofs.Syntax.Spelling
import LineBasic.Proofs.Syntax.Statements
import LineBasic.Proofs.Syntax.Termination
import LineBasic.Proofs.Text.Decimal
import LineBasic.Proofs.Text.Encoding
import LineBasic.Proofs.Text.Fields
import LineBasic.Proofs.Text.Runs
import LineBasic.Proofs.Text.Trim
import LineBasic.Run.Evaluation
import LineBasic.Run.Machine
import LineBasic.Run.Workspace
import LineBasic.Session.Basic
import LineBasic.Session.Columns
import LineBasic.Session.Command
import LineBasic.Session.LineRange
import LineBasic.Session.Statistics
import LineBasic.Settings.Basic
import LineBasic.Settings.Document
import LineBasic.Settings.Duration
import LineBasic.Settings.Environment
import LineBasic.Settings.Load
import LineBasic.Syntax.Keyword
import LineBasic.Syntax.Lexer
import LineBasic.Syntax.Parser
import LineBasic.Syntax.Statement
import LineBasic.Syntax.Token
import LineBasic.Text.Bytes
import LineBasic.Text.Case
import LineBasic.Text.CaseTable
import LineBasic.Text.Classes
import LineBasic.Text.Integer
import LineBasic.Text.Lowering
import LineBasic.Text.Quoted
import LineBasic.Text.Space
import LineBasic.Value
import LineBasic.Yaml.Base64
import LineBasic.Yaml.Node
import LineBasic.Yaml.Record
import LineBasic.Yaml.Scalar
import LineBasic.Yaml.Source
import LineBasic.Yaml.Spelling
import LineBasic.Yaml.Tag
import LineBasic.Yaml.Timestamp
import LineBasic.Yaml.Token
