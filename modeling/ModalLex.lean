import ModalLex.Alternation.Basic
import ModalLex.Alternation.Cache
import ModalLex.CharSet
import ModalLex.Config.Basic
import ModalLex.Config.Json
import ModalLex.Decimal.Binary
import ModalLex.Decimal.Layout
import ModalLex.Decimal.Shortest
import ModalLex.Dialogue
import ModalLex.Error
import ModalLex.Json.Number
import ModalLex.Json.Reader
import ModalLex.Json.Writer
import ModalLex.Lexer
import ModalLex.Log.Basic
import ModalLex.Log.Event
import ModalLex.Proofs.Alternation.Coherence
import ModalLex.Proofs.Alternation.Extension
import ModalLex.Proofs.Alternation.Numbering
import ModalLex.Proofs.Alternation.Report
import ModalLex.Proofs.Alternation.Splicing
import ModalLex.Proofs.Alternation.Suffixes
import ModalLex.Proofs.Config.Fields
import ModalLex.Proofs.Config.Overriding
import ModalLex.Proofs.Config.RoundTrip
import ModalLex.Proofs.Json.Grammar
import ModalLex.Proofs.Json.Meaning
import ModalLex.Proofs.Json.Order
import ModalLex.Proofs.Json.Scanning
import ModalLex.Proofs.Json.Writing
import ModalLex.Proofs.Lexer.Aborting
import ModalLex.Proofs.Lexer.Attempt
import ModalLex.Proofs.Lexer.Bare
import ModalLex.Proofs.Lexer.BaseTokens
import ModalLex.Proofs.Lexer.CacheGrowth
import ModalLex.Proofs.Lexer.Calls
import ModalLex.Proofs.Lexer.Checked
import ModalLex.Proofs.Lexer.Compilation
import ModalLex.Proofs.Lexer.Courses
import ModalLex.Proofs.Lexer.Coverage
import ModalLex.Proofs.Lexer.DeclarationOrder
import ModalLex.Proofs.Lexer.Extension
import ModalLex.Proofs.Lexer.Failure
import ModalLex.Proofs.Lexer.Interleaving
import ModalLex.Proofs.Lexer.Journaling
import ModalLex.Proofs.Lexer.Keeping
import ModalLex.Proofs.Lexer.Lifecycle
import ModalLex.Proofs.Lexer.Mirroring
import ModalLex.Proofs.Lexer.PatternErrors
import ModalLex.Proofs.Lexer.Precedence
import ModalLex.Proofs.Lexer.Progress
import ModalLex.Proofs.Lexer.Recording
import ModalLex.Proofs.Lexer.Replay
import ModalLex.Proofs.Lexer.Reports
import ModalLex.Proofs.Lexer.Resuming
import ModalLex.Proofs.Lexer.Retrying
import ModalLex.Proofs.Lexer.Run
import ModalLex.Proofs.Lexer.SharedMatch
import ModalLex.Proofs.Regex.Beginning
import ModalLex.Proofs.Regex.Branches
import ModalLex.Proofs.Regex.ClassReading
import ModalLex.Proofs.Regex.Compiling
import ModalLex.Proofs.Regex.Counting
import ModalLex.Proofs.Regex.Embedding
import ModalLex.Proofs.Regex.Invariant
import ModalLex.Proofs.Regex.Layout
import ModalLex.Proofs.Regex.Naming
import ModalLex.Proofs.Regex.Numbering
import ModalLex.Proofs.Regex.Reading
import ModalLex.Proofs.Regex.Relocation
import ModalLex.Proofs.Regex.Renumbering
import ModalLex.Proofs.Regex.Sweep
import ModalLex.Proofs.StackLaws
import ModalLex.Proofs.StateStack
import ModalLex.Proofs.StateTable
import ModalLex.Proofs.Text
import ModalLex.Proofs.Window
import ModalLex.Proofs.WindowLaws
import ModalLex.Regex.Basic
import ModalLex.Regex.Expr
import ModalLex.Regex.Gauge
import ModalLex.Regex.Meaning
import ModalLex.Regex.Parser
import ModalLex.Regex.Program
import ModalLex.Regex.Property
import ModalLex.Regex.Search
import ModalLex.Regex.Size
import ModalLex.Regex.Tree
import ModalLex.Resolver
import ModalLex.Rule
import ModalLex.Script.Condition
import ModalLex.Script.Hooks
import ModalLex.Script.Statement
import ModalLex.Session
import ModalLex.StateStack
import ModalLex.StateTable
import ModalLex.Text.Basic
import ModalLex.Text.Quoted
import ModalLex.Text.Terminal
import ModalLex.Token
import ModalLex.Unicode.CaseFold
import ModalLex.Unicode.Category
import ModalLex.Unicode.Letter
import ModalLex.Unicode.Mark
import ModalLex.Unicode.Number
import ModalLex.Unicode.Printable
import ModalLex.Unicode.Punctuation
import ModalLex.Unicode.Script
import ModalLex.Unicode.Space
import ModalLex.Unicode.Symbol
import ModalLex.Unicode.Word
import ModalLex.Utf8
import ModalLex.Value
import ModalLex.Window
