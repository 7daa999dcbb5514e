import Fleet.Admission
import Fleet.Analysis
import Fleet.Arrange
import Fleet.Binary64
import Fleet.Bounds
import Fleet.CrashLog
import Fleet.Cycle
import Fleet.Dispatch
import Fleet.Http.MediaType
import Fleet.Http.Uri
import Fleet.Intake
import Fleet.Json.Basic
import Fleet.Json.Escape
import Fleet.Json.Outline
import Fleet.Metrics
import Fleet.Numeral
import Fleet.Numeral.Shortest
import Fleet.Policy
import Fleet.Procedure
import Fleet.Proposal
import Fleet.Receiver
import Fleet.Record.Action
import Fleet.Record.App
import Fleet.Record.Freshness
import Fleet.Record.Heartbeat
import Fleet.Record.Message
import Fleet.Record.Shape
import Fleet.Service
import Fleet.Service.Api
import Fleet.Settings
import Fleet.Settings.File
import Fleet.Span
import Fleet.Span.Notation
import Fleet.Store
import Fleet.Store.Rows
import Fleet.Table
import Fleet.Text.Blank
import Fleet.Text.Legible
import Fleet.Text.Quoted
import Fleet.Toml.Document
import Fleet.Toml.Layout
import Fleet.Toml.Scalar
import Fleet.Toml.Text
import Fleet.View
import Fleet.Command
import Fleet.Command.Line
import Fleet.Command.Help
import Fleet.Store.Depot
import Fleet.Main
import Fleet.Proofs.Lists
import Fleet.Proofs.Cycles
import Fleet.Proofs.Rows
import Fleet.Proofs.Deliveries
import Fleet.Proofs.DispatchOutcome
import Fleet.Proofs.ActionEndings
import Fleet.Proofs.Conduct
import Fleet.Proofs.Convergence
import Fleet.Proofs.Turns
import Fleet.Proofs.Histories
import Fleet.Proofs.ServedIndices
import Fleet.Proofs.Agreement
import Fleet.Proofs.Priorities
import Fleet.Proofs.Refusals
import Fleet.Proofs.Analyses
import Fleet.Proofs.Repetition
import Fleet.Proofs.Pending
import Fleet.Proofs.Assignments
import Fleet.Proofs.Dispatches
import Fleet.Proofs.Chronicle
import Fleet.Proofs.Windows
import Fleet.Proofs.EarlyEnds
import Fleet.Proofs.Keys
import Fleet.Proofs.Reachability
import Fleet.Proofs.Enqueues
import Fleet.Proofs.CrashCounts
import Fleet.Proofs.Backoffs
import Fleet.Proofs.Sendings
import Fleet.Proofs.Separation
import Fleet.Proofs.Words
import Fleet.Proofs.Outlines
import Fleet.Proofs.RecordTexts
import Fleet.Proofs.StringForms
import Fleet.Proofs.Statements
import Fleet.Proofs.Renderings
import Fleet.Proofs.Flushes
import Fleet.Proofs.Stamps
import Fleet.Proofs.GracePeriods
import Fleet.Proofs.ColdStarts
import Fleet.Proofs.Dismissals
import Fleet.Proofs.StartedIndices
import Fleet.Proofs.Throttling
import Fleet.Proofs.SpanTexts
import Fleet.Proofs.SettingsChecks
import Fleet.Proofs.Trimming
import Fleet.Proofs.Delays
import Fleet.Proofs.RunningIndices
import Fleet.Proofs.Completions
import Fleet.Proofs.Reaping
import Fleet.Proofs.ReportOrder
import Fleet.Proofs.ByteOrder
import Fleet.Proofs.Partition
import Fleet.Proofs.Saving
import Fleet.Proofs.Shortfall
import Fleet.Proofs.Tidiness
