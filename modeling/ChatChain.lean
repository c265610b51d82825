import ChatChain.Binding
import ChatChain.Bot
import ChatChain.Builtin
import ChatChain.Builtin.Basic
import ChatChain.Builtin.Delay
import ChatChain.Builtin.Files
import ChatChain.Builtin.Help
import ChatChain.Builtin.Number
import ChatChain.Builtin.Text
import ChatChain.Cancellation
import ChatChain.Chain
import ChatChain.ChainError
import ChatChain.CommandError
import ChatChain.CommandLine
import ChatChain.CommandStore
import ChatChain.Console.Bot
import ChatChain.Console.Delivery
import ChatChain.Console.Desk
import ChatChain.Console.Input
import ChatChain.Console.Session
import ChatChain.Definition
import ChatChain.Dict
import ChatChain.Digest.Hex
import ChatChain.Digest.Sha256
import ChatChain.Execution
import ChatChain.Failure
import ChatChain.FileName
import ChatChain.FileSystem
import ChatChain.FileSystem.Access
import ChatChain.FileSystem.Location
import ChatChain.Flags
import ChatChain.Grammar
import ChatChain.Invocation
import ChatChain.Invocation.Printer
import ChatChain.Invocation.Words
import ChatChain.Main
import ChatChain.Message
import ChatChain.Number.Binary64
import ChatChain.Number.Decimal
import ChatChain.Number.Rounding
import ChatChain.Number.Shortest
import ChatChain.Platform
import ChatChain.Registry
import ChatChain.Reply
import ChatChain.Report
import ChatChain.Report.Printer
import ChatChain.Resolution
import ChatChain.Routine
import ChatChain.Settings
import ChatChain.Settings.Decoding
import ChatChain.Settings.File
import ChatChain.Task
import ChatChain.TempStore
import ChatChain.TempStore.Ledger
import ChatChain.TempStore.Operation
import ChatChain.Text.Alphabetic
import ChatChain.Text.Alphanumeric
import ChatChain.Text.Blank
import ChatChain.Text.Cased
import ChatChain.Text.Casing
import ChatChain.Text.CodePoints
import ChatChain.Text.Cut
import ChatChain.Text.Lowercase
import ChatChain.Text.Stretch
import ChatChain.Text.Uppercase
import ChatChain.Toml.Blank
import ChatChain.Toml.Document
import ChatChain.Toml.Item
import ChatChain.Toml.Moment
import ChatChain.Toml.Numeral
import ChatChain.Toml.Quoted
import ChatChain.Toml.Reader
import ChatChain.Value
import ChatChain.Invocation.Reader
import ChatChain.Proofs.Reading
import ChatChain.Proofs.Binding
import ChatChain.Proofs.Spelling
import ChatChain.Proofs.Execution
import ChatChain.Proofs.Handling
import ChatChain.Proofs.Registry
import ChatChain.Proofs.Reply
import ChatChain.Proofs.CheckedChains
import ChatChain.Proofs.FileNames
import ChatChain.Proofs.Files
import ChatChain.Proofs.Places
import ChatChain.Proofs.Release
import ChatChain.Proofs.StoreRuns
import ChatChain.Proofs.LateWrites
import ChatChain.Proofs.Answered
import ChatChain.Proofs.Cleanup
import ChatChain.Proofs.Text.Pieces
import ChatChain.Proofs.Printing
import ChatChain.Proofs.Protocol
import ChatChain.Proofs.DataFlow
import ChatChain.Proofs.Rejection
import ChatChain.Proofs.TemplateLookup
import ChatChain.Proofs.MisspeltSettings
import ChatChain.Proofs.Templates
import ChatChain.Proofs.Reports
import ChatChain.Proofs.Alike
import ChatChain.Proofs.Secrecy
import ChatChain.Proofs.TextSteps
import ChatChain.Proofs.Answering
import ChatChain.Proofs.Pipelines
import ChatChain.Proofs.LedgerRuns
import ChatChain.Proofs.Leftovers
import ChatChain.Proofs.CallCounts
import ChatChain.Proofs.ErrorReplies
import ChatChain.Proofs.WakeUps
import ChatChain.Proofs.HelpText
import ChatChain.Proofs.LateRefusals
import ChatChain.Proofs.Visibility
import ChatChain.Proofs.Copies
import ChatChain.Proofs.PipedValues
import ChatChain.Proofs.ExactSpelling
import ChatChain.Proofs.Timing
import ChatChain.Proofs.Number.Literals
import ChatChain.Proofs.Rendering
import ChatChain.Proofs.DeclarationOrder
import ChatChain.Proofs.DefaultSpelling
import ChatChain.Proofs.Expansion
import ChatChain.Proofs.LettingGo
import ChatChain.Proofs.Neighbours
import ChatChain.Proofs.MergedText
import ChatChain.Proofs.SideBySide
import ChatChain.Proofs.StoredFiles
import ChatChain.Proofs.FilePipelines
import ChatChain.Proofs.HandledFiles
import ChatChain.Proofs.SmallSteps
import ChatChain.Proofs.FilePieces
import ChatChain.Proofs.ParallelFiles
import ChatChain.Proofs.Sums
