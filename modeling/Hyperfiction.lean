import Hyperfiction.CommandLine.Lint
import Hyperfiction.CommandLine.Outcome
import Hyperfiction.CommandLine.Play
import Hyperfiction.Config
import Hyperfiction.Decimal.Layout
import Hyperfiction.Decimal.Shortest
import Hyperfiction.Display
import Hyperfiction.Draft
import Hyperfiction.Engine
import Hyperfiction.Evaluator
import Hyperfiction.Event
import Hyperfiction.FileTree
import Hyperfiction.Helper
import Hyperfiction.Helper.Readymade
import Hyperfiction.History
import Hyperfiction.Json.Document
import Hyperfiction.Json.Parser
import Hyperfiction.Json.Printer
import Hyperfiction.Link
import Hyperfiction.Lint
import Hyperfiction.Main
import Hyperfiction.Markdown.Block
import Hyperfiction.Markdown.Html
import Hyperfiction.Markdown.Inline
import Hyperfiction.Markdown.Line
import Hyperfiction.Markdown.Reference
import Hyperfiction.Markdown.Tag
import Hyperfiction.Markdown.Target
import Hyperfiction.Passage
import Hyperfiction.Player.Command
import Hyperfiction.Player.Game
import Hyperfiction.Player.Options
import Hyperfiction.Player.Terminal
import Hyperfiction.Progress
import Hyperfiction.Proofs.Frame
import Hyperfiction.Proofs.Outcome
import Hyperfiction.Random
import Hyperfiction.Rendering
import Hyperfiction.Ron.Document
import Hyperfiction.Ron.Parser
import Hyperfiction.Screen
import Hyperfiction.Script.Builtin
import Hyperfiction.Script.Datum
import Hyperfiction.Script.Environment
import Hyperfiction.Script.Evaluator
import Hyperfiction.Script.Fault
import Hyperfiction.Script.Interpreter
import Hyperfiction.Script.Operator
import Hyperfiction.Script.Parser
import Hyperfiction.Script.Run
import Hyperfiction.Script.Syntax
import Hyperfiction.Script.Token
import Hyperfiction.Session
import Hyperfiction.Storage
import Hyperfiction.Storage.Folder
import Hyperfiction.Storage.Slot
import Hyperfiction.Story
import Hyperfiction.StoryFile
import Hyperfiction.Table
import Hyperfiction.Template.Piece
import Hyperfiction.Template.Segment
import Hyperfiction.Text.Blank
import Hyperfiction.Text.Case
import Hyperfiction.Text.CaseTable
import Hyperfiction.Text.Cut
import Hyperfiction.Text.Entity
import Hyperfiction.Text.Numeral
import Hyperfiction.Text.Punctuation
import Hyperfiction.Toml.Parser
import Hyperfiction.Toml.Scalar
import Hyperfiction.Toml.Tree
import Hyperfiction.Value
import Hyperfiction.Value.Display
import Hyperfiction.Word
import Hyperfiction.Proofs.Navigation
import Hyperfiction.Proofs.Arrival
import Hyperfiction.Proofs.Travel
import Hyperfiction.Proofs.Decimal.Shortest
import Hyperfiction.Proofs.Table
import Hyperfiction.Proofs.Json.Text
import Hyperfiction.Proofs.Json.Reading
import Hyperfiction.Proofs.Json.Numeral
import Hyperfiction.Proofs.Json.Writing
import Hyperfiction.Proofs.Json.Faithful
import Hyperfiction.Proofs.SavedGame
import Hyperfiction.Proofs.Resume
import Hyperfiction.Proofs.Script.Calls
import Hyperfiction.Proofs.Aside
import Hyperfiction.Proofs.Storage.Key
import Hyperfiction.Proofs.Storage.Folder
import Hyperfiction.Proofs.Loading
import Hyperfiction.Proofs.RollBack
import Hyperfiction.Proofs.BackStack
import Hyperfiction.Proofs.Restoring
import Hyperfiction.Proofs.Movement
import Hyperfiction.Proofs.OnScreen
import Hyperfiction.Proofs.Text.Delimiter
import Hyperfiction.Proofs.Template.Stream
import Hyperfiction.Proofs.Template.Grammar
import Hyperfiction.Proofs.Template.RoundTrip
import Hyperfiction.Proofs.ProgressText
import Hyperfiction.Proofs.Text.Entity
import Hyperfiction.Proofs.Link.Cut
import Hyperfiction.Proofs.Template.Plain
import Hyperfiction.Proofs.Link.Target
import Hyperfiction.Proofs.Lint.Reachability
import Hyperfiction.Proofs.Lint.Report
import Hyperfiction.Proofs.Lint.Playing
import Hyperfiction.Proofs.Template.Texts
import Hyperfiction.Proofs.Lint.MissingTargets
import Hyperfiction.Proofs.Building
import Hyperfiction.Proofs.Likeness
import Hyperfiction.Proofs.SideBySide
import Hyperfiction.Proofs.BadSave
import Hyperfiction.Proofs.Script.Draws
import Hyperfiction.Proofs.FailedNavigation
import Hyperfiction.Proofs.Events
import Hyperfiction.Proofs.Script.CallLog
import Hyperfiction.Proofs.Script.LaidWrites
import Hyperfiction.Proofs.Script.Failures
import Hyperfiction.Proofs.Link.Row
import Hyperfiction.Proofs.Template.Calls
import Hyperfiction.Proofs.Template.Sequence
import Hyperfiction.Proofs.Template.Choice
import Hyperfiction.Proofs.Zipper
import Hyperfiction.Proofs.Peeking
import Hyperfiction.Proofs.Configuring
import Hyperfiction.Proofs.Storage.Respelling
import Hyperfiction.Proofs.Storage.FolderMap
import Hyperfiction.Proofs.Player.Numbering
import Hyperfiction.Proofs.Script.Crossing
import Hyperfiction.Proofs.Template.Pieces
import Hyperfiction.Proofs.Player.Prose
import Hyperfiction.Proofs.Player.Arguments
import Hyperfiction.Proofs.Visits
