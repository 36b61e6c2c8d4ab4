import Workflows.Carry.Addressee
import Workflows.Carry.Contact
import Workflows.Carry.Fault
import Workflows.Carry.Script
import Workflows.Carry.Setting
import Workflows.Carry.Step
import Workflows.Carry.Tag
import Workflows.Carry.Template
import Workflows.Carry.Verdict
import Workflows.Cli.Arguments
import Workflows.Cli.Paint
import Workflows.Cli.Program
import Workflows.Cli.Report
import Workflows.Config
import Workflows.ConfigFile
import Workflows.Data.Dict
import Workflows.Data.Document
import Workflows.Data.Path
import Workflows.Data.Value
import Workflows.Decimal.Reading
import Workflows.Decimal.Shortest
import Workflows.Decimal.Written
import Workflows.Definition.Basic
import Workflows.Definition.File
import Workflows.Definition.Kind
import Workflows.Definition.Lint
import Workflows.Engine.Basic
import Workflows.Engine.Drive
import Workflows.Engine.Error
import Workflows.Engine.Run
import Workflows.Execution.Context
import Workflows.Execution.Outcome
import Workflows.Execution.Record
import Workflows.Expr.Basic
import Workflows.Expr.Eval
import Workflows.Expr.Lexer
import Workflows.Expr.Parser
import Workflows.Expr.Rule
import Workflows.Expr.Token
import Workflows.File.Fault
import Workflows.File.System
import Workflows.Interpreter
import Workflows.Json.Printer
import Workflows.Json.Reader
import Workflows.Main
import Workflows.Script.Report
import Workflows.Services.Basic
import Workflows.Services.Delivery
import Workflows.Services.Evaluator
import Workflows.Services.Fault
import Workflows.Services.Notice
import Workflows.Services.Policy
import Workflows.Services.PolicyFile
import Workflows.Store.Faulty
import Workflows.Store.File
import Workflows.Store.Memory
import Workflows.Store.Repository
import Workflows.Store.Update
import Workflows.Text.Blank
import Workflows.Text.Case
import Workflows.Text.Letter
import Workflows.Text.Search
import Workflows.Time
import Workflows.Timeline
import Workflows.Yaml.Node
import Workflows.Yaml.Parser
import Workflows.Yaml.Plain
import Workflows.Yaml.Printer
import Workflows.Yaml.Reader
import Workflows.Yaml.Scalar
import Workflows.Yaml.Scanner
import Workflows.Yaml.Source
import Workflows.Yaml.Token
import Workflows.Proofs.Carry.Outcome
import Workflows.Proofs.Engine.Course
import Workflows.Proofs.Store.Memory
import Workflows.Proofs.Engine.InMemory
import Workflows.Proofs.Engine.Underway
import Workflows.Proofs.Engine.Calls
import Workflows.Proofs.Engine.Reachable
import Workflows.Proofs.Engine.Lifecycle
import Workflows.Proofs.Execution.Walk
import Workflows.Proofs.Engine.Walk
import Workflows.Proofs.Engine.Continuity
import Workflows.Proofs.Engine.Preserves
import Workflows.Proofs.Engine.Outdated
import Workflows.Proofs.Carry.Entity
import Workflows.Proofs.Carry.Tagging
import Workflows.Proofs.Carry.Policy
import Workflows.Proofs.Carry.Required
import Workflows.Proofs.Carry.Addressed
import Workflows.Proofs.Engine.Becomes
import Workflows.Proofs.Engine.Terminal
import Workflows.Proofs.Engine.Growth
import Workflows.Proofs.Engine.Working
import Workflows.Proofs.Engine.Refusal
import Workflows.Proofs.Engine.Faulty
import Workflows.Proofs.Engine.Aftermath
import Workflows.Proofs.Engine.Session
import Workflows.Proofs.Carry.Outbox
import Workflows.Proofs.Engine.Decisions
import Workflows.Proofs.Engine.Sendings
import Workflows.Proofs.Engine.Limit
import Workflows.Proofs.Expr.Grammar
import Workflows.Proofs.Expr.Tokens
import Workflows.Proofs.Expr.Soundness
import Workflows.Proofs.Expr.Completeness
import Workflows.Proofs.Expr.Spelling
import Workflows.Proofs.Expr.Tiling
import Workflows.Proofs.Expr.Juxtaposed
import Workflows.Proofs.Expr.Levels
import Workflows.Proofs.Expr.Explained
import Workflows.Proofs.Expr.Blamed
import Workflows.Proofs.Expr.Attributes
import Workflows.Proofs.Expr.Trimmed
import Workflows.Proofs.Expr.Written
import Workflows.Proofs.Expr.Plain
import Workflows.Proofs.Expr.Rooted
import Workflows.Proofs.Decimal.Digits
import Workflows.Proofs.Decimal.Rounding
import Workflows.Proofs.Decimal.Bits
import Workflows.Proofs.Decimal.Nearest
import Workflows.Proofs.Decimal.Shortest
import Workflows.Proofs.Decimal.ReadBack
import Workflows.Proofs.Decimal.Order
import Workflows.Proofs.Decimal.Whole
import Workflows.Proofs.Expr.Integers
import Workflows.Proofs.Expr.Equality
import Workflows.Proofs.Expr.Literals
import Workflows.Proofs.Expr.RoundTrip
import Workflows.Proofs.Data.Dict
import Workflows.Proofs.Data.Document
import Workflows.Proofs.Text.Blank
import Workflows.Proofs.Text.Search
import Workflows.Proofs.Yaml.Node
import Workflows.Proofs.File.System
import Workflows.Proofs.File.Texts
import Workflows.Proofs.Store.Answers
import Workflows.Proofs.Store.Order
import Workflows.Proofs.Store.File
import Workflows.Proofs.Execution.RoundTrip
import Workflows.Proofs.Definition.RoundTrip
import Workflows.Proofs.Store.Registered
import Workflows.Proofs.Store.Registering
import Workflows.Proofs.Definition.References
import Workflows.Proofs.Definition.Lint
import Workflows.Proofs.Definition.Reach
import Workflows.Proofs.Engine.Linted
import Workflows.Proofs.Carry.Template
import Workflows.Proofs.Carry.Payload
import Workflows.Proofs.Json.Numeral
import Workflows.Proofs.Json.Grammar
import Workflows.Proofs.Json.Reading
import Workflows.Proofs.Json.Quotes
import Workflows.Proofs.Script.Framed
import Workflows.Proofs.Cli.Arguments
import Workflows.Proofs.Cli.Tasks
import Workflows.Proofs.Cli.Rejected
import Workflows.Proofs.Expr.Escaped
import Workflows.Proofs.Expr.Observed
import Workflows.Proofs.Expr.Steady
import Workflows.Proofs.Expr.Nesting
import Workflows.Proofs.Timeline.Chart
