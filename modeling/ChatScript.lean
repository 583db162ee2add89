import ChatScript.Text.Split
import ChatScript.Text.Lowercase
import ChatScript.Text.Decimal
import ChatScript.Value
import ChatScript.Token.Piece
import ChatScript.Token.Lexer
import ChatScript.Program.Parser
import ChatScript.Program.Equality
import ChatScript.Program.Printer
import ChatScript.Program.Template
import ChatScript.Execution
import ChatScript.Chance
import ChatScript.Json.Codec
import ChatScript.Chat.Session
import ChatScript.Disk.FileTree
import ChatScript.Main
import ChatScript.Proofs.Grammar
import ChatScript.Proofs.Tree
import ChatScript.Proofs.Soundness
import ChatScript.Proofs.Completeness
import ChatScript.Proofs.NormalForm
import ChatScript.Proofs.Budget
import ChatScript.Proofs.Scanning
import ChatScript.Proofs.Quoting
import ChatScript.Proofs.Canonical
import ChatScript.Proofs.RoundTrip
import ChatScript.Proofs.Derailment
import ChatScript.Proofs.FailFast
import ChatScript.Proofs.Points
import ChatScript.Proofs.Builtins
import ChatScript.Proofs.CountCalls
import ChatScript.Proofs.SharedCounts
import ChatScript.Proofs.Mentions
import ChatScript.Proofs.JsonText
import ChatScript.Proofs.Restarts
import ChatScript.Proofs.Chatters
import ChatScript.Proofs.Interference
import ChatScript.Proofs.Templates
import ChatScript.Proofs.LowerCase
import ChatScript.Proofs.Registration
import ChatScript.Proofs.Invocation
import ChatScript.Proofs.FaultyTerminal
import ChatScript.Proofs.DurableRun
import ChatScript.Proofs.Records
import ChatScript.Proofs.SavedMark
import ChatScript.Proofs.Layout
import ChatScript.Proofs.Orderly
import ChatScript.Proofs.Respacing
import ChatScript.Proofs.Concatenation
import ChatScript.Proofs.Headings
import ChatScript.Proofs.FaultLines
import ChatScript.Proofs.Classification
import ChatScript.Proofs.OpenBlocks
import ChatScript.Proofs.References
import ChatScript.Proofs.Rendering
import ChatScript.Proofs.NumberRange
import ChatScript.Proofs.EqualPrograms
