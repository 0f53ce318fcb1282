import Reflex.Binary64.Arithmetic
import Reflex.Binary64.Basic
import Reflex.Binary64.Decimal
import Reflex.Binary64.Shortest
import Reflex.Command.Argument
import Reflex.Command.Console
import Reflex.Command.Rules
import Reflex.Command.Scenarios
import Reflex.Config.Basic
import Reflex.Config.File
import Reflex.Datum
import Reflex.Event
import Reflex.Expr.Basic
import Reflex.Expr.Coercion
import Reflex.Expr.Eval
import Reflex.Expr.Fault
import Reflex.Expr.Library
import Reflex.Expr.Parser
import Reflex.Expr.Token
import Reflex.Failure
import Reflex.File.Basic
import Reflex.File.Disk
import Reflex.File.Path
import Reflex.File.Replace
import Reflex.Json.Printer
import Reflex.Json.Reader
import Reflex.Main
import Reflex.Ordered
import Reflex.Proofs.Binary64
import Reflex.Proofs.Binary64.Rounding
import Reflex.Proofs.Binary64.Shortest
import Reflex.Proofs.Expr.Calls
import Reflex.Proofs.Expr.Exactness
import Reflex.Proofs.Expr.Faults
import Reflex.Proofs.Expr.Grammar
import Reflex.Proofs.Expr.Height
import Reflex.Proofs.Expr.Identity
import Reflex.Proofs.Expr.Layout
import Reflex.Proofs.Expr.Names
import Reflex.Proofs.Expr.Numerals
import Reflex.Proofs.Expr.Paths
import Reflex.Proofs.Expr.Prompt
import Reflex.Proofs.Expr.RoundTrip
import Reflex.Proofs.Expr.Scope
import Reflex.Proofs.Expr.Soundness
import Reflex.Proofs.Expr.Spans
import Reflex.Proofs.Expr.Values
import Reflex.Proofs.Expr.Viability
import Reflex.Proofs.Expr.Writing
import Reflex.Proofs.File.Directory
import Reflex.Proofs.File.Disk
import Reflex.Proofs.File.Path
import Reflex.Proofs.File.Texts
import Reflex.Proofs.Json.Numerals
import Reflex.Proofs.Json.Pretty
import Reflex.Proofs.Ordered
import Reflex.Proofs.Result
import Reflex.Proofs.Rule.Agreement
import Reflex.Proofs.Rule.Canonical
import Reflex.Proofs.Rule.Compiled
import Reflex.Proofs.Rule.Diagnostics
import Reflex.Proofs.Rule.Literals
import Reflex.Proofs.Rule.Mentions
import Reflex.Proofs.Rule.References
import Reflex.Proofs.Rule.Visibility
import Reflex.Proofs.Scenario.Results
import Reflex.Proofs.Scenario.StateChecks
import Reflex.Proofs.Scenario.Steps
import Reflex.Proofs.Scenario.Storage
import Reflex.Proofs.Scenario.Summary
import Reflex.Proofs.Session.Abreast
import Reflex.Proofs.Session.Accounting
import Reflex.Proofs.Session.Akin
import Reflex.Proofs.Session.Atomicity
import Reflex.Proofs.Session.Basic
import Reflex.Proofs.Session.CallDepth
import Reflex.Proofs.Session.Ceiling
import Reflex.Proofs.Session.Changes
import Reflex.Proofs.Session.Closure
import Reflex.Proofs.Session.Cycles
import Reflex.Proofs.Session.Evaluation
import Reflex.Proofs.Session.Firing
import Reflex.Proofs.Session.Footprint
import Reflex.Proofs.Session.Freshness
import Reflex.Proofs.Session.Journal
import Reflex.Proofs.Session.Lockstep
import Reflex.Proofs.Session.Moments
import Reflex.Proofs.Session.Mute
import Reflex.Proofs.Session.Notification
import Reflex.Proofs.Session.Observation
import Reflex.Proofs.Session.Priority
import Reflex.Proofs.Session.Queue
import Reflex.Proofs.Session.Reachable
import Reflex.Proofs.Session.Record
import Reflex.Proofs.Session.Replacement
import Reflex.Proofs.Session.Requests
import Reflex.Proofs.Session.Restart
import Reflex.Proofs.Session.Runs
import Reflex.Proofs.Session.Selection
import Reflex.Proofs.Session.Settings
import Reflex.Proofs.Session.Slot
import Reflex.Proofs.Session.Updates
import Reflex.Proofs.State.Assignment
import Reflex.Proofs.State.Difference
import Reflex.Proofs.State.Merge
import Reflex.Proofs.State.Patch
import Reflex.Proofs.State.Replay
import Reflex.Proofs.State.Storage
import Reflex.Proofs.State.Template
import Reflex.Proofs.State.Variables
import Reflex.Proofs.State.WellFormed
import Reflex.Proofs.Text.Characters
import Reflex.Proofs.Text.Words
import Reflex.Proofs.Value.Equality
import Reflex.Proofs.Value.Extensional
import Reflex.Proofs.Value.Fields
import Reflex.Reading
import Reflex.Rule.Basic
import Reflex.Rule.Compiled
import Reflex.Rule.Design
import Reflex.Rule.Fault
import Reflex.Rule.File
import Reflex.Rule.Flat
import Reflex.Rule.Load
import Reflex.Rule.Review
import Reflex.Rule.Schema
import Reflex.Scenario.Case
import Reflex.Scenario.File
import Reflex.Scenario.Judgment
import Reflex.Scenario.Report
import Reflex.Scenario.Result
import Reflex.Scenario.Run
import Reflex.Session.Basic
import Reflex.Session.Dispatch
import Reflex.Session.Engine
import Reflex.Session.Firing
import Reflex.Session.Open
import Reflex.Session.Run
import Reflex.Session.Update
import Reflex.State.Assignment
import Reflex.State.Computed
import Reflex.State.Patch
import Reflex.State.Path
import Reflex.State.Storage
import Reflex.State.Store
import Reflex.State.Template
import Reflex.Text.Blank
import Reflex.Text.CaseTable
import Reflex.Text.Decimal
import Reflex.Text.HiddenTable
import Reflex.Text.LetterCase
import Reflex.Text.Literal
import Reflex.Text.Occurrence
import Reflex.Text.Word
import Reflex.Text.WordTable
import Reflex.Toml.Printer
import Reflex.Toml.Reader
import Reflex.Toml.Scalar
import Reflex.Toml.Table
import Reflex.Value.Basic
