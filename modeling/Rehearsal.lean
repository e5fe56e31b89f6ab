import Rehearsal.Backend.Agent
import Rehearsal.Backend.Basic
import Rehearsal.Backend.Session
import Rehearsal.Backend.Stage
import Rehearsal.Backend.Viewer
import Rehearsal.Backend.ViewerAgent
import Rehearsal.CommandLine.Arguments
import Rehearsal.CommandLine.Parameter
import Rehearsal.CommandLine.Preparation
import Rehearsal.CommandLine.Program
import Rehearsal.CommandLine.Reader
import Rehearsal.Failure.Basic
import Rehearsal.Files.Volume
import Rehearsal.Glob.Pattern
import Rehearsal.Glob.Walk
import Rehearsal.Json.Decode
import Rehearsal.Json.Doc
import Rehearsal.Json.Fault
import Rehearsal.Json.Numeral
import Rehearsal.Json.Value
import Rehearsal.Launch.Agents
import Rehearsal.Launch.Basic
import Rehearsal.Launch.Machine
import Rehearsal.Launch.MainWindow
import Rehearsal.Launch.Process
import Rehearsal.Launch.Shell
import Rehearsal.Main
import Rehearsal.Procedure.Basic
import Rehearsal.Procedure.Polling
import Rehearsal.Procedure.Step
import Rehearsal.Report.Basic
import Rehearsal.Run.Harness
import Rehearsal.Scenario.Catalogue
import Rehearsal.Settings.Basic
import Rehearsal.Settings.Codec
import Rehearsal.Settings.Source
import Rehearsal.Text.Base64
import Rehearsal.Text.Natural
import Rehearsal.Text.Shortest
import Rehearsal.Text.Shown
import Rehearsal.Text.Unicode
import Rehearsal.Text.Unprintable
import Rehearsal.Text.Utf8
import Rehearsal.Trail.Action
import Rehearsal.Trail.Entry
import Rehearsal.Trail.Identifier
import Rehearsal.Trail.Instant
import Rehearsal.Tree.Codec
import Rehearsal.Tree.Locator
import Rehearsal.Tree.NamePattern
import Rehearsal.Tree.Node
import Rehearsal.Wire.Message
import Rehearsal.Proofs.Backend.Exchange
import Rehearsal.Proofs.Backend.Call
import Rehearsal.Proofs.Json.Letters
import Rehearsal.Proofs.Json.Spelling
import Rehearsal.Proofs.Procedure.Waiting
import Rehearsal.Proofs.Json.Reading
import Rehearsal.Proofs.Json.Nesting
import Rehearsal.Proofs.Tree.Written
import Rehearsal.Proofs.Text.Blank
import Rehearsal.Proofs.Wire.Response
import Rehearsal.Proofs.Backend.Conversation
import Rehearsal.Proofs.Backend.Backlog
import Rehearsal.Proofs.Backend.Pairing
import Rehearsal.Proofs.Launch.Overrun
import Rehearsal.Proofs.Procedure.Recording
import Rehearsal.Proofs.Backend.Connection
import Rehearsal.Proofs.Procedure.Quest
import Rehearsal.Proofs.Procedure.LostConnection
import Rehearsal.Proofs.Tree.NamePattern
import Rehearsal.Proofs.Tree.Search
import Rehearsal.Proofs.Backend.Logged
import Rehearsal.Proofs.Procedure.Exchanges
import Rehearsal.Proofs.Procedure.Story
import Rehearsal.Proofs.Procedure.Sighting
import Rehearsal.Proofs.Procedure.Standing
import Rehearsal.Proofs.Scenario.FailStop
import Rehearsal.Proofs.Scenario.Verdict
import Rehearsal.Proofs.Scenario.Rehearsals
import Rehearsal.Proofs.Scenario.Passwords
import Rehearsal.Proofs.Scenario.Defects
import Rehearsal.Proofs.Viewer.Following
import Rehearsal.Proofs.Viewer.Moves
import Rehearsal.Proofs.Viewer.Unlocking
import Rehearsal.Proofs.Viewer.Widgets
import Rehearsal.Proofs.Json.Decoding
import Rehearsal.Proofs.Json.Pretty
import Rehearsal.Proofs.Wire.Request
import Rehearsal.Proofs.Settings.SearchBudget
import Rehearsal.Proofs.Report.Filing
import Rehearsal.Proofs.Report.Accounting
import Rehearsal.Proofs.Report.Agreement
import Rehearsal.Proofs.Text.Natural
import Rehearsal.Proofs.Procedure.Focusing
import Rehearsal.Proofs.Scenario.LastEntry
import Rehearsal.Proofs.Run.Course
import Rehearsal.Proofs.CommandLine.Precedence
import Rehearsal.Proofs.Scenario.Walks
import Rehearsal.Proofs.Viewer.Operations
import Rehearsal.Proofs.Viewer.Consistency
import Rehearsal.Proofs.Viewer.Locked
import Rehearsal.Proofs.Text.Padded
import Rehearsal.Proofs.Trail.Calendar
import Rehearsal.Proofs.Files.Paths
import Rehearsal.Proofs.Files.Places
import Rehearsal.Proofs.Files.Changes
import Rehearsal.Proofs.Glob.Escaping
import Rehearsal.Proofs.Glob.Walking
import Rehearsal.Proofs.Glob.Finding
import Rehearsal.Proofs.Report.Collecting
import Rehearsal.Proofs.Report.Listing
import Rehearsal.Proofs.Settings.SearchAttempts
import Rehearsal.Proofs.Viewer.LabelEntry
import Rehearsal.Proofs.Backend.Upkeep
import Rehearsal.Proofs.Glob.Backtracking
import Rehearsal.Proofs.Glob.Guarded
import Rehearsal.Proofs.Tree.Positions
import Rehearsal.Proofs.Procedure.Turns
import Rehearsal.Proofs.Procedure.Windows
import Rehearsal.Proofs.Text.Base64
import Rehearsal.Proofs.Wire.Picture
import Rehearsal.Proofs.Tree.Outline
import Rehearsal.Proofs.Trail.Written
import Rehearsal.Proofs.Settings.Written
