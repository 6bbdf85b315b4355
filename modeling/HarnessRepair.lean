import HarnessRepair.Batch.File
import HarnessRepair.Batch.Run
import HarnessRepair.Budget.Attempts
import HarnessRepair.Budget.Record
import HarnessRepair.CommandLine.Ending
import HarnessRepair.CommandLine.Invocation
import HarnessRepair.CommandLine.Option
import HarnessRepair.CommandLine.Output
import HarnessRepair.CommandLine.Program
import HarnessRepair.CommandLine.Scan
import HarnessRepair.Failure
import HarnessRepair.Files.Claim
import HarnessRepair.Files.Description
import HarnessRepair.Files.FileSystem
import HarnessRepair.Files.Path
import HarnessRepair.Finding.Basic
import HarnessRepair.Finding.Location
import HarnessRepair.Identity.Sha1
import HarnessRepair.Identity.Uuid
import HarnessRepair.Json.Field
import HarnessRepair.Json.Printer
import HarnessRepair.Json.Reader
import HarnessRepair.Json.Record
import HarnessRepair.Json.Value
import HarnessRepair.Log.Event
import HarnessRepair.Log.File
import HarnessRepair.Log.Filter
import HarnessRepair.Log.Render
import HarnessRepair.Log.Setup
import HarnessRepair.Main
import HarnessRepair.Number.Binary64
import HarnessRepair.Oracle.Advice
import HarnessRepair.Oracle.Answer
import HarnessRepair.Oracle.Context
import HarnessRepair.Oracle.Credential
import HarnessRepair.Oracle.Prompt
import HarnessRepair.Oracle.Remote
import HarnessRepair.Oracle.Request
import HarnessRepair.Oracle.Script
import HarnessRepair.Patch.Basic
import HarnessRepair.Patch.Insertion
import HarnessRepair.Patch.LineMap
import HarnessRepair.Patch.Store
import HarnessRepair.Pipeline.Mode
import HarnessRepair.Pipeline.Run
import HarnessRepair.Process.Command
import HarnessRepair.Proofs.Batch.Alike
import HarnessRepair.Proofs.Batch.Conduct
import HarnessRepair.Proofs.Batch.Guarantee
import HarnessRepair.Proofs.Batch.Interleaving
import HarnessRepair.Proofs.Batch.Isolation
import HarnessRepair.Proofs.Batch.Listing
import HarnessRepair.Proofs.Batch.Pool
import HarnessRepair.Proofs.Batch.Restoration
import HarnessRepair.Proofs.Batch.Steps
import HarnessRepair.Proofs.Batch.Totals
import HarnessRepair.Proofs.Batch.Traceless
import HarnessRepair.Proofs.Batch.View
import HarnessRepair.Proofs.Budget.Clamp
import HarnessRepair.Proofs.Files.Apart
import HarnessRepair.Proofs.Files.Overwrite
import HarnessRepair.Proofs.Files.Removal
import HarnessRepair.Proofs.Finding.Complaint
import HarnessRepair.Proofs.Finding.Identity
import HarnessRepair.Proofs.Finding.Recognition
import HarnessRepair.Proofs.Json.Dictionary
import HarnessRepair.Proofs.Json.Record
import HarnessRepair.Proofs.Oracle.Answer
import HarnessRepair.Proofs.Oracle.Excerpt
import HarnessRepair.Proofs.Patch.Body
import HarnessRepair.Proofs.Patch.Exact
import HarnessRepair.Proofs.Patch.Growth
import HarnessRepair.Proofs.Patch.Handles
import HarnessRepair.Proofs.Patch.History
import HarnessRepair.Proofs.Patch.Insertion
import HarnessRepair.Proofs.Patch.LineMap
import HarnessRepair.Proofs.Patch.Operations
import HarnessRepair.Proofs.Patch.Placement
import HarnessRepair.Proofs.Patch.Places
import HarnessRepair.Proofs.Patch.Reached
import HarnessRepair.Proofs.Patch.Refusal
import HarnessRepair.Proofs.Patch.Repetition
import HarnessRepair.Proofs.Patch.Replay
import HarnessRepair.Proofs.Patch.Sequence
import HarnessRepair.Proofs.Patch.Spans
import HarnessRepair.Proofs.Patch.Stripping
import HarnessRepair.Proofs.Patch.Weave
import HarnessRepair.Proofs.Session.Acceptance
import HarnessRepair.Proofs.Session.Accounts
import HarnessRepair.Proofs.Session.Arithmetic
import HarnessRepair.Proofs.Session.Books
import HarnessRepair.Proofs.Session.Briefing
import HarnessRepair.Proofs.Session.Course
import HarnessRepair.Proofs.Session.Footing
import HarnessRepair.Proofs.Session.Ledger
import HarnessRepair.Proofs.Session.Loop
import HarnessRepair.Proofs.Session.Moments
import HarnessRepair.Proofs.Session.OpenFindings
import HarnessRepair.Proofs.Session.Order
import HarnessRepair.Proofs.Session.Origin
import HarnessRepair.Proofs.Session.Reach
import HarnessRepair.Proofs.Session.Reports
import HarnessRepair.Proofs.Session.Round
import HarnessRepair.Proofs.Session.Showing
import HarnessRepair.Proofs.Session.Sightings
import HarnessRepair.Proofs.Session.Spending
import HarnessRepair.Proofs.Session.Standing
import HarnessRepair.Proofs.Session.Step
import HarnessRepair.Proofs.Session.Turn
import HarnessRepair.Proofs.Text.Cut
import HarnessRepair.Proofs.Text.Joined
import HarnessRepair.Proofs.Text.Newline
import HarnessRepair.Proofs.Text.Numeral
import HarnessRepair.Proofs.Text.Trim
import HarnessRepair.Proofs.Verifier.Clean
import HarnessRepair.Proofs.Verifier.Coverage
import HarnessRepair.Proofs.Verifier.Fresh
import HarnessRepair.Proofs.Verifier.Reading
import HarnessRepair.Proofs.Verifier.Stable
import HarnessRepair.Proofs.Verifier.Trace
import HarnessRepair.Rehearsal.Described
import HarnessRepair.Rehearsal.Oracle
import HarnessRepair.Rehearsal.Timeless
import HarnessRepair.Rehearsal.Verifier
import HarnessRepair.Scaffold.Generator
import HarnessRepair.Session.Judgement
import HarnessRepair.Session.Ledger
import HarnessRepair.Session.Run
import HarnessRepair.Settings.Basic
import HarnessRepair.Settings.Layers
import HarnessRepair.Settings.Validation
import HarnessRepair.Settings.Variable
import HarnessRepair.Shell.Action
import HarnessRepair.Shell.Arithmetic
import HarnessRepair.Shell.Builtin.Basic
import HarnessRepair.Shell.Builtin.Setting
import HarnessRepair.Shell.Builtin.Variable
import HarnessRepair.Shell.Call
import HarnessRepair.Shell.Condition
import HarnessRepair.Shell.Expand
import HarnessRepair.Shell.Field
import HarnessRepair.Shell.Format
import HarnessRepair.Shell.Host
import HarnessRepair.Shell.Job
import HarnessRepair.Shell.Location
import HarnessRepair.Shell.Pattern
import HarnessRepair.Shell.Reader
import HarnessRepair.Shell.Run
import HarnessRepair.Shell.Script
import HarnessRepair.Shell.Signal
import HarnessRepair.Shell.Source
import HarnessRepair.Shell.State
import HarnessRepair.Shell.Tool.Basic
import HarnessRepair.Shell.Tool.Calculate
import HarnessRepair.Shell.Tool.Compare
import HarnessRepair.Shell.Tool.Edit
import HarnessRepair.Shell.Tool.EditScript
import HarnessRepair.Shell.Tool.Expression
import HarnessRepair.Shell.Tool.Files
import HarnessRepair.Shell.Tool.Lines
import HarnessRepair.Shell.Tool.Search
import HarnessRepair.Shell.Tool.Table
import HarnessRepair.Shell.Tool.Translate
import HarnessRepair.Shell.Word
import HarnessRepair.Summary.Aggregate
import HarnessRepair.Summary.Markdown
import HarnessRepair.Summary.Overview
import HarnessRepair.Summary.Session
import HarnessRepair.Summary.Timestamp
import HarnessRepair.Target
import HarnessRepair.Text.Alphanumeric
import HarnessRepair.Text.Blank
import HarnessRepair.Text.ByteText
import HarnessRepair.Text.CharSet
import HarnessRepair.Text.Emoji
import HarnessRepair.Text.Lines
import HarnessRepair.Text.Numeral
import HarnessRepair.Text.Printable
import HarnessRepair.Text.Quoted
import HarnessRepair.Text.Search
import HarnessRepair.Text.Table
import HarnessRepair.Text.Utf8
import HarnessRepair.Text.Width
import HarnessRepair.Text.WordChar
import HarnessRepair.Verifier.Document
import HarnessRepair.Verifier.Make
import HarnessRepair.Verifier.Reading
import HarnessRepair.Verifier.Report
import HarnessRepair.World
import HarnessRepair.Yaml.Cursor
import HarnessRepair.Yaml.Decode
import HarnessRepair.Yaml.Document
import HarnessRepair.Yaml.Layout
import HarnessRepair.Yaml.Node
import HarnessRepair.Yaml.Plain
import HarnessRepair.Yaml.Property
import HarnessRepair.Yaml.Scalar
import HarnessRepair.Yaml.Token
