import GuessingGame.Answer
import GuessingGame.App.Basic
import GuessingGame.App.Draw
import GuessingGame.App.EventLog
import GuessingGame.App.Help
import GuessingGame.App.Key
import GuessingGame.App.Status
import GuessingGame.Attempt
import GuessingGame.CommandLine.Basic
import GuessingGame.CommandLine.Perform
import GuessingGame.Console.Basic
import GuessingGame.Console.Failure
import GuessingGame.Console.Immediate
import GuessingGame.Console.Playthrough
import GuessingGame.Console.Table
import GuessingGame.Files.Basic
import GuessingGame.Files.Tree
import GuessingGame.Game
import GuessingGame.Game.Json
import GuessingGame.Game.Yaml
import GuessingGame.Json.Basic
import GuessingGame.Json.Printer
import GuessingGame.Json.Token
import GuessingGame.Main
import GuessingGame.Play
import GuessingGame.Proofs.Script.Spelling
import GuessingGame.Screen.Cell
import GuessingGame.Screen.Layer
import GuessingGame.Screen.Paragraph
import GuessingGame.Screen.Rect
import GuessingGame.Screen.Word
import GuessingGame.Script.Cursor
import GuessingGame.Script.Fault
import GuessingGame.Script.Host
import GuessingGame.Script.Load
import GuessingGame.Script.Place
import GuessingGame.Script.Reader
import GuessingGame.Script.Statement
import GuessingGame.Script.Token
import GuessingGame.Settings
import GuessingGame.Text.Alphabetic
import GuessingGame.Text.Blank
import GuessingGame.Text.Cased
import GuessingGame.Text.Cluster
import GuessingGame.Text.CodeSet
import GuessingGame.Text.Digits
import GuessingGame.Text.LowerCase
import GuessingGame.Text.Marks
import GuessingGame.Text.Numeric
import GuessingGame.Text.Pictograph
import GuessingGame.Text.Utf8
import GuessingGame.Text.Width
import GuessingGame.Theme.Basic
import GuessingGame.Theme.Color
import GuessingGame.Theme.Custom
import GuessingGame.Yaml.Cursor
import GuessingGame.Yaml.Meaning
import GuessingGame.Yaml.Node
import GuessingGame.Yaml.Printer
import GuessingGame.Yaml.Record
import GuessingGame.Yaml.Scalar
import GuessingGame.Yaml.Tag
import GuessingGame.Yaml.Token
import GuessingGame.Proofs.Script.Reads
import GuessingGame.Proofs.Script.Grammar
import GuessingGame.Proofs.Script.Outline
import GuessingGame.Proofs.Script.Acceptance
import GuessingGame.Proofs.Script.Content
import GuessingGame.Proofs.Script.Exchange
import GuessingGame.Proofs.Script.Calls
import GuessingGame.Proofs.Script.Modes
import GuessingGame.Proofs.Script.Prefix
import GuessingGame.Proofs.Script.Misspelling
import GuessingGame.Proofs.Script.Rejection
import GuessingGame.Proofs.Play.Redaction
import GuessingGame.Proofs.Play.Blocks
import GuessingGame.Proofs.Text.Folding
import GuessingGame.Proofs.Console.Lines
import GuessingGame.Proofs.Console.PlayLines
import GuessingGame.Proofs.App.Invariant
import GuessingGame.Proofs.App.Typing
import GuessingGame.Proofs.Script.Layout
import GuessingGame.Proofs.Script.Relocation
import GuessingGame.Proofs.Script.Sequel
import GuessingGame.Proofs.Console.Writing
import GuessingGame.Proofs.Console.Interruption
import GuessingGame.Proofs.Console.Challenge
import GuessingGame.Proofs.Console.Walk
import GuessingGame.Proofs.Console.TwoModes
import GuessingGame.Proofs.Script.Replay
import GuessingGame.Proofs.Console.Shortage
import GuessingGame.Proofs.Console.Secrecy
import GuessingGame.Proofs.Console.Overview
import GuessingGame.Proofs.App.Reload
import GuessingGame.Proofs.Script.Remains
import GuessingGame.Proofs.Script.Scanning
import GuessingGame.Proofs.Script.Stepping
import GuessingGame.Proofs.Play.Winning
import GuessingGame.Proofs.App.Prompting
import GuessingGame.Proofs.Console.Verdicts
import GuessingGame.Proofs.App.Explanation
import GuessingGame.Proofs.Screen.Region
import GuessingGame.Proofs.Screen.Wrapping
import GuessingGame.Proofs.App.Window
import GuessingGame.Proofs.App.HelpPage
import GuessingGame.Proofs.App.EventWindow
import GuessingGame.Proofs.App.Card
import GuessingGame.Proofs.Play.Leniency
import GuessingGame.Proofs.App.EventHistory
import GuessingGame.Proofs.Script.Expressible
import GuessingGame.Proofs.Theme.Spelling
import GuessingGame.Proofs.Theme.Description
import GuessingGame.Proofs.Theme.Circle
import GuessingGame.Proofs.App.Centering
import GuessingGame.Proofs.Game.Export
