import Runbook.Act
import Runbook.Agent.Completions
import Runbook.Agent.Conversation
import Runbook.Agent.Model
import Runbook.Agent.Ollama
import Runbook.Agent.Reasoning
import Runbook.Api.Endpoint
import Runbook.Api.Service
import Runbook.Application
import Runbook.Condition
import Runbook.Decimal.Binary64
import Runbook.Decimal.Reader
import Runbook.Decimal.Shortest
import Runbook.Execution.Command
import Runbook.Execution.Engine
import Runbook.Execution.Perform
import Runbook.Execution.Prompt
import Runbook.Execution.PullRequest
import Runbook.Execution.Services
import Runbook.Fault.Classify
import Runbook.Fault.Failure
import Runbook.Fault.Incident
import Runbook.Files.Basic
import Runbook.Files.Glob
import Runbook.Hosting.GitHub
import Runbook.Http.Exchange
import Runbook.Http.Url
import Runbook.Json.Encoding
import Runbook.Json.Printer
import Runbook.Json.Reader
import Runbook.Logging
import Runbook.Manager
import Runbook.Naming
import Runbook.Pattern.Basic
import Runbook.Pattern.Reader
import Runbook.Pattern.Search
import Runbook.Proofs.Agent.Conversation
import Runbook.Proofs.Agent.Model
import Runbook.Proofs.Agent.Reasoning
import Runbook.Proofs.Condition.Literal
import Runbook.Proofs.Condition.Notation
import Runbook.Proofs.Condition.Order
import Runbook.Proofs.Condition.Reading
import Runbook.Proofs.Condition.Totality
import Runbook.Proofs.Decimal.Bounded
import Runbook.Proofs.Decimal.Characters
import Runbook.Proofs.Decimal.Digits
import Runbook.Proofs.Decimal.Integers
import Runbook.Proofs.Decimal.Reading
import Runbook.Proofs.Decimal.Rounding
import Runbook.Proofs.Decimal.Shortest
import Runbook.Proofs.Each
import Runbook.Proofs.Execution.Bound
import Runbook.Proofs.Execution.Commands
import Runbook.Proofs.Execution.Failing
import Runbook.Proofs.Execution.Guard
import Runbook.Proofs.Execution.Passes
import Runbook.Proofs.Execution.Perform
import Runbook.Proofs.Execution.Reads
import Runbook.Proofs.Execution.Secrecy
import Runbook.Proofs.Execution.Slices
import Runbook.Proofs.Execution.Switches
import Runbook.Proofs.Execution.Timeline
import Runbook.Proofs.Execution.Titles
import Runbook.Proofs.Execution.Turn
import Runbook.Proofs.Execution.Untimed
import Runbook.Proofs.Fault.Classify
import Runbook.Proofs.Files.Alike
import Runbook.Proofs.Files.Contents
import Runbook.Proofs.Files.Tree
import Runbook.Proofs.Hosting.Rejection
import Runbook.Proofs.Json.Kinds
import Runbook.Proofs.Json.Number
import Runbook.Proofs.Json.RoundTrip
import Runbook.Proofs.Manager.Address
import Runbook.Proofs.Manager.Bounds
import Runbook.Proofs.Manager.Branches
import Runbook.Proofs.Manager.Containment
import Runbook.Proofs.Manager.Continuation
import Runbook.Proofs.Manager.Crash
import Runbook.Proofs.Manager.Interleaving
import Runbook.Proofs.Manager.Interruption
import Runbook.Proofs.Manager.Isolation
import Runbook.Proofs.Manager.Operations
import Runbook.Proofs.Manager.Partners
import Runbook.Proofs.Manager.Placement
import Runbook.Proofs.Manager.Provider
import Runbook.Proofs.Manager.Question
import Runbook.Proofs.Manager.Reached
import Runbook.Proofs.Manager.Refusal
import Runbook.Proofs.Manager.Secrecy
import Runbook.Proofs.Manager.Soundness
import Runbook.Proofs.Manager.Summary
import Runbook.Proofs.Manager.Transparency
import Runbook.Proofs.Manager.Walk
import Runbook.Proofs.Naming
import Runbook.Proofs.Schema
import Runbook.Proofs.Session.Atomicity
import Runbook.Proofs.Session.Confinement
import Runbook.Proofs.Session.Document
import Runbook.Proofs.Session.Faults
import Runbook.Proofs.Session.History
import Runbook.Proofs.Session.Key
import Runbook.Proofs.Session.Listing
import Runbook.Proofs.Session.Persistence
import Runbook.Proofs.Session.Repository
import Runbook.Proofs.Session.Root
import Runbook.Proofs.Session.RoundTrip
import Runbook.Proofs.Session.Secrecy
import Runbook.Proofs.Session.Store
import Runbook.Proofs.Session.Summary
import Runbook.Proofs.Session.Untimed
import Runbook.Proofs.Settings.Precedence
import Runbook.Proofs.Settings.Reading
import Runbook.Proofs.Template
import Runbook.Proofs.Text.Cutting
import Runbook.Proofs.Text.Utf8
import Runbook.Proofs.Toml.Names
import Runbook.Proofs.Unicode.Lowercase
import Runbook.Proofs.Value.Bindings
import Runbook.Proofs.Value.Calendar
import Runbook.Proofs.Workflow.Agreement
import Runbook.Proofs.Workflow.Answer
import Runbook.Proofs.Workflow.Build
import Runbook.Proofs.Workflow.Checks
import Runbook.Proofs.Workflow.Diversion
import Runbook.Proofs.Workflow.Lookup
import Runbook.Proofs.Workflow.Masking
import Runbook.Proofs.Workflow.Quoting
import Runbook.Proofs.Workflow.Totality
import Runbook.Rehearsal.Cast
import Runbook.Rehearsal.Script
import Runbook.Schema
import Runbook.Session.Key
import Runbook.Session.Repository
import Runbook.Session.State
import Runbook.Session.Store
import Runbook.Session.Summary
import Runbook.Settings.Basic
import Runbook.Settings.Form
import Runbook.Settings.Load
import Runbook.Settings.Shipped
import Runbook.Shell.Arithmetic
import Runbook.Shell.Builtin
import Runbook.Shell.Expansion
import Runbook.Shell.Format
import Runbook.Shell.Machine
import Runbook.Shell.Process
import Runbook.Shell.Reader
import Runbook.Shell.Run
import Runbook.Shell.Syntax
import Runbook.Shell.Test
import Runbook.Shell.Tool
import Runbook.Shell.Tool.Basic
import Runbook.Shell.Tool.Paths
import Runbook.Shell.Tool.Texts
import Runbook.Template
import Runbook.Text.Base64
import Runbook.Text.Basic
import Runbook.Text.Quoted
import Runbook.Text.Utf8
import Runbook.Toml.Quoted
import Runbook.Toml.Reader
import Runbook.Toml.Scalar
import Runbook.Toml.Table
import Runbook.Unicode.Alphanumeric
import Runbook.Unicode.Basic
import Runbook.Unicode.Lowercase
import Runbook.Unicode.Names
import Runbook.Unicode.Printable
import Runbook.Unicode.Uppercase
import Runbook.Value.Basic
import Runbook.Value.Calendar
import Runbook.Value.Display
import Runbook.Value.Key
import Runbook.Workflow.Answer
import Runbook.Workflow.Basic
import Runbook.Workflow.Document
import Runbook.Workflow.Fill
import Runbook.Workflow.Form
import Runbook.Workflow.Git
import Runbook.Workflow.Library
import Runbook.Workflow.Report
import Runbook.Workflow.Source
import Runbook.Yaml.Error
import Runbook.Yaml.Mark
import Runbook.Yaml.Node
import Runbook.Yaml.Node.Reader
import Runbook.Yaml.Node.Value
import Runbook.Yaml.Scalar
import Runbook.Yaml.Token
import Runbook.Yaml.Token.Cursor
import Runbook.Yaml.Token.Lexer
import Runbook.Proofs.Execution.Offers
