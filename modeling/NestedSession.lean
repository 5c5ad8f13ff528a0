import NestedSession.Capture.Basic
import NestedSession.Capture.Drain
import NestedSession.Child.Exit
import NestedSession.Child.Launch
import NestedSession.Child.Process
import NestedSession.CommandLine.Fault
import NestedSession.CommandLine.Given
import NestedSession.CommandLine.Ink
import NestedSession.CommandLine.Misuse
import NestedSession.CommandLine.Outcome
import NestedSession.CommandLine.Program
import NestedSession.CommandLine.Reading
import NestedSession.CommandLine.Run
import NestedSession.CommandLine.SettingsReport
import NestedSession.CommandLine.Summary
import NestedSession.CommandLine.Switch
import NestedSession.Environment.Backend
import NestedSession.Environment.Layers
import NestedSession.Environment.Variables
import NestedSession.Fault
import NestedSession.Json.Basic
import NestedSession.Json.Choice
import NestedSession.Json.Reading
import NestedSession.Json.Tagged
import NestedSession.Main
import NestedSession.Number.Binary64
import NestedSession.Number.Count
import NestedSession.Number.Shortest
import NestedSession.Proofs.Capture.Decoding
import NestedSession.Proofs.Capture.Draining
import NestedSession.Proofs.Capture.Feeding
import NestedSession.Proofs.Capture.Growth
import NestedSession.Proofs.Capture.Readings
import NestedSession.Proofs.Capture.Withholding
import NestedSession.Proofs.Child.Accounting
import NestedSession.Proofs.Child.Ending
import NestedSession.Proofs.Child.Forcing
import NestedSession.Proofs.Child.Handling
import NestedSession.Proofs.Child.Marking
import NestedSession.Proofs.Child.Pairing
import NestedSession.Proofs.Child.Pumping
import NestedSession.Proofs.Child.Reaping
import NestedSession.Proofs.Child.Steps
import NestedSession.Proofs.Child.Telling
import NestedSession.Proofs.CommandLine.Assignments
import NestedSession.Proofs.CommandLine.Gathering
import NestedSession.Proofs.CommandLine.InForce
import NestedSession.Proofs.CommandLine.Precedence
import NestedSession.Proofs.CommandLine.Running
import NestedSession.Proofs.CommandLine.Shown
import NestedSession.Proofs.CommandLine.Spelling
import NestedSession.Proofs.CommandLine.Validating
import NestedSession.Proofs.CommandLine.Verdict
import NestedSession.Proofs.Environment.Layers
import NestedSession.Proofs.Environment.Nesting
import NestedSession.Proofs.Json.Strings
import NestedSession.Proofs.Json.Values
import NestedSession.Proofs.Session.Blaming
import NestedSession.Proofs.Session.Capturing
import NestedSession.Proofs.Session.Childless
import NestedSession.Proofs.Session.Counting
import NestedSession.Proofs.Session.Course
import NestedSession.Proofs.Session.Deadline
import NestedSession.Proofs.Session.Freshness
import NestedSession.Proofs.Session.Grading
import NestedSession.Proofs.Session.Independence
import NestedSession.Proofs.Session.Launching
import NestedSession.Proofs.Session.Marking
import NestedSession.Proofs.Session.Mirroring
import NestedSession.Proofs.Session.Output
import NestedSession.Proofs.Session.Pairing
import NestedSession.Proofs.Session.Readiness
import NestedSession.Proofs.Session.Release
import NestedSession.Proofs.Session.SavedLogs
import NestedSession.Proofs.Session.Sifting
import NestedSession.Proofs.Session.Starting
import NestedSession.Proofs.Settings.Kinds
import NestedSession.Proofs.Settings.Loading
import NestedSession.Proofs.Settings.Overlaying
import NestedSession.Proofs.Settings.Parsing
import NestedSession.Proofs.Settings.RoundTrip
import NestedSession.Proofs.Settings.Rules
import NestedSession.Proofs.System.Booking
import NestedSession.Proofs.System.Calling
import NestedSession.Proofs.System.Noting
import NestedSession.Proofs.System.Pairing
import NestedSession.Proofs.System.Pipes
import NestedSession.Proofs.System.Scripted
import NestedSession.Proofs.System.Ticking
import NestedSession.Proofs.Text.Beginning
import NestedSession.Proofs.Text.Extending
import NestedSession.Proofs.Text.Incremental
import NestedSession.Proofs.Text.Lines
import NestedSession.Proofs.Text.Occurrence
import NestedSession.Proofs.Text.Rounds
import NestedSession.Proofs.Text.Sequence
import NestedSession.Proofs.Text.Written
import NestedSession.Proofs.Toml.Documents
import NestedSession.Proofs.Toml.Keys
import NestedSession.Proofs.Toml.Strings
import NestedSession.Proofs.Toml.Values
import NestedSession.Proofs.Waiting.Counting
import NestedSession.Proofs.Waiting.Ending
import NestedSession.Proofs.Waiting.Polling
import NestedSession.Rehearsal.Hosting
import NestedSession.Rehearsal.Latin
import NestedSession.Rehearsal.Machine.Basic
import NestedSession.Rehearsal.Machine.Signals
import NestedSession.Rehearsal.Machine.Transfer
import NestedSession.Rehearsal.Program.Calendar
import NestedSession.Rehearsal.Program.Editing.Basic
import NestedSession.Rehearsal.Program.Editing.Playing
import NestedSession.Rehearsal.Program.Editing.Reading
import NestedSession.Rehearsal.Program.Facts
import NestedSession.Rehearsal.Program.Filters
import NestedSession.Rehearsal.Program.Finding
import NestedSession.Rehearsal.Program.Layout
import NestedSession.Rehearsal.Program.Letters
import NestedSession.Rehearsal.Program.Lines
import NestedSession.Rehearsal.Program.Many
import NestedSession.Rehearsal.Program.Naming
import NestedSession.Rehearsal.Program.Ordering
import NestedSession.Rehearsal.Program.Printing
import NestedSession.Rehearsal.Program.Reader
import NestedSession.Rehearsal.Program.Regex.Matching
import NestedSession.Rehearsal.Program.Regex.Reading
import NestedSession.Rehearsal.Program.Running
import NestedSession.Rehearsal.Program.Search
import NestedSession.Rehearsal.Program.Sums
import NestedSession.Rehearsal.Program.Table
import NestedSession.Rehearsal.Program.Test
import NestedSession.Rehearsal.Program.Trees.Basic
import NestedSession.Rehearsal.Program.Trees.Listing
import NestedSession.Rehearsal.Program.Trees.Making
import NestedSession.Rehearsal.Program.Trees.Moving
import NestedSession.Rehearsal.Program.Trees.Rights
import NestedSession.Rehearsal.Program.Trees.Walking
import NestedSession.Rehearsal.Program.Work
import NestedSession.Rehearsal.Role
import NestedSession.Rehearsal.Script.Builtin.Basic
import NestedSession.Rehearsal.Script.Builtin.Flow
import NestedSession.Rehearsal.Script.Builtin.Names
import NestedSession.Rehearsal.Script.Builtin.Processes
import NestedSession.Rehearsal.Script.Builtin.Variables
import NestedSession.Rehearsal.Script.Command
import NestedSession.Rehearsal.Script.Expansion
import NestedSession.Rehearsal.Script.Fields
import NestedSession.Rehearsal.Script.Finding
import NestedSession.Rehearsal.Script.Input
import NestedSession.Rehearsal.Script.Jobs
import NestedSession.Rehearsal.Script.Pattern
import NestedSession.Rehearsal.Script.Playing
import NestedSession.Rehearsal.Script.Reading
import NestedSession.Rehearsal.Script.Redirecting
import NestedSession.Rehearsal.Script.Scene
import NestedSession.Rehearsal.Script.Shell
import NestedSession.Rehearsal.Script.Starting
import NestedSession.Rehearsal.Script.Sum
import NestedSession.Rehearsal.Script.Words
import NestedSession.Rehearsal.Stage
import NestedSession.Session.Basic
import NestedSession.Session.Ending
import NestedSession.Session.Fault
import NestedSession.Session.Report
import NestedSession.Session.Scenario
import NestedSession.Session.Verdict
import NestedSession.Settings.Basic
import NestedSession.Settings.Fault
import NestedSession.Settings.Loading
import NestedSession.Settings.Overlay
import NestedSession.Settings.Reading
import NestedSession.Settings.Showing
import NestedSession.Settings.Validity
import NestedSession.Stream
import NestedSession.System.Clock
import NestedSession.System.Errno
import NestedSession.System.Fault
import NestedSession.System.Files
import NestedSession.System.Host
import NestedSession.System.Path
import NestedSession.System.Signal
import NestedSession.Text.Blank
import NestedSession.Text.Decoder
import NestedSession.Text.Invisible
import NestedSession.Text.Quoted
import NestedSession.Text.Search
import NestedSession.Text.Unstyled
import NestedSession.Text.Utf8
import NestedSession.Toml.Document
import NestedSession.Toml.Printer
import NestedSession.Toml.Scalar
import NestedSession.Toml.Strings
import NestedSession.Toml.Tree
import NestedSession.Waiting.Poll
import NestedSession.Waiting.Request
