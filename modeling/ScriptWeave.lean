import ScriptWeave.Alias.Format
import ScriptWeave.Alias.Table
import ScriptWeave.Build.Compiler
import ScriptWeave.Build.ComponentFiles
import ScriptWeave.Build.Failure
import ScriptWeave.Build.Pool
import ScriptWeave.Build.Preprocessor
import ScriptWeave.Build.Scratch
import ScriptWeave.Build.ScriptCache
import ScriptWeave.Build.World
import ScriptWeave.Component.Attributes
import ScriptWeave.Component.Block
import ScriptWeave.Component.Splice
import ScriptWeave.Decimal.Digits
import ScriptWeave.Decimal.Shortest
import ScriptWeave.Dialect.Basic
import ScriptWeave.Dialect.Rules
import ScriptWeave.Digest.Sha256
import ScriptWeave.Files.Error
import ScriptWeave.Files.Lookup
import ScriptWeave.Files.Operations
import ScriptWeave.Files.Path
import ScriptWeave.Files.Store
import ScriptWeave.Json.Decoder
import ScriptWeave.Json.Error
import ScriptWeave.Json.Lexical
import ScriptWeave.Json.Value
import ScriptWeave.Options.Basic
import ScriptWeave.Options.Format
import ScriptWeave.Options.Load
import ScriptWeave.Pattern.Error
import ScriptWeave.Pattern.Match
import ScriptWeave.Pattern.Meaning
import ScriptWeave.Pattern.Node
import ScriptWeave.Pattern.Parse
import ScriptWeave.Pattern.Program
import ScriptWeave.Pattern.Reader
import ScriptWeave.Pattern.Scan
import ScriptWeave.Pattern.Size
import ScriptWeave.Pattern.Steady
import ScriptWeave.Pattern.Syntax
import ScriptWeave.Pattern.Threads
import ScriptWeave.Program.Diagnostic
import ScriptWeave.Program.Expressions
import ScriptWeave.Program.Literal
import ScriptWeave.Program.Naming
import ScriptWeave.Program.Parser
import ScriptWeave.Program.Reading
import ScriptWeave.Program.Scope
import ScriptWeave.Program.Syntax
import ScriptWeave.Program.Token
import ScriptWeave.Program.Validity
import ScriptWeave.Program.Word
import ScriptWeave.Property.Age
import ScriptWeave.Property.Category
import ScriptWeave.Property.Flag
import ScriptWeave.Property.Packed
import ScriptWeave.Property.Query
import ScriptWeave.Property.Script
import ScriptWeave.Script.Adapted
import ScriptWeave.Script.Exports
import ScriptWeave.Script.Renames
import ScriptWeave.Script.Words
import ScriptWeave.SetupError
import ScriptWeave.Shell.Arithmetic
import ScriptWeave.Shell.Builtins
import ScriptWeave.Shell.Bytes
import ScriptWeave.Shell.Condition
import ScriptWeave.Shell.Expand
import ScriptWeave.Shell.FileTools
import ScriptWeave.Shell.Filters
import ScriptWeave.Shell.Parser
import ScriptWeave.Shell.Print
import ScriptWeave.Shell.Run
import ScriptWeave.Shell.Shape
import ScriptWeave.Shell.State
import ScriptWeave.Shell.Syntax
import ScriptWeave.Shell.Token
import ScriptWeave.Sorted
import ScriptWeave.Text.Basic
import ScriptWeave.Text.Blank
import ScriptWeave.Text.CaseFold
import ScriptWeave.Text.Digit
import ScriptWeave.Text.NameChar
import ScriptWeave.Text.Printable
import ScriptWeave.Text.Quoted
import ScriptWeave.Text.Range
import ScriptWeave.Text.Utf8
import ScriptWeave.Text.WordChar
import ScriptWeave.Proofs.Text.Replace
import ScriptWeave.Proofs.Pattern.Pieces
import ScriptWeave.Proofs.Script.Words
import ScriptWeave.Proofs.Script.Sigils
import ScriptWeave.Proofs.Text.Cuts
import ScriptWeave.Proofs.Pattern.Progress
import ScriptWeave.Proofs.Script.ExportGrammar
import ScriptWeave.Proofs.Script.WrittenExports
import ScriptWeave.Proofs.Alias.Order
import ScriptWeave.Proofs.Script.Renaming
import ScriptWeave.Proofs.Pattern.CaseFold
import ScriptWeave.Proofs.Component.Scanner
import ScriptWeave.Proofs.Component.Layout
import ScriptWeave.Proofs.Component.Splicing
import ScriptWeave.Proofs.Build.Actions
import ScriptWeave.Proofs.Build.Components
import ScriptWeave.Proofs.Build.CacheEntries
import ScriptWeave.Proofs.Build.Outcomes
import ScriptWeave.Proofs.Build.SoundCache
import ScriptWeave.Proofs.Build.Transparency
import ScriptWeave.Proofs.Build.StrictCheck
import ScriptWeave.Proofs.Script.ExportScan
import ScriptWeave.Proofs.Pattern.Gaps
import ScriptWeave.Proofs.Script.RecordedAliases
import ScriptWeave.Proofs.Script.NormalForm
import ScriptWeave.Proofs.Options.Fingerprints
import ScriptWeave.Proofs.Sorted
import ScriptWeave.Proofs.Component.Extraction
import ScriptWeave.Proofs.Files.PathOrder
import ScriptWeave.Proofs.Build.Directories
import ScriptWeave.Proofs.Build.CacheKeys
import ScriptWeave.Proofs.Files.InDirectory
import ScriptWeave.Proofs.Build.CacheMap
import ScriptWeave.Proofs.Build.FailedBlocks
import ScriptWeave.Proofs.Build.PoolHistory
import ScriptWeave.Proofs.Script.OnePass
import ScriptWeave.Proofs.Script.LongestFirst
import ScriptWeave.Proofs.Alias.FirstNames
import ScriptWeave.Proofs.Script.RoundTrip
import ScriptWeave.Proofs.Script.EntryWords
import ScriptWeave.Proofs.Files.Walks
import ScriptWeave.Proofs.Files.Tree
import ScriptWeave.Proofs.Build.ScratchFiles
import ScriptWeave.Proofs.Build.ScratchNumbers
import ScriptWeave.Proofs.Files.LastName
import ScriptWeave.Proofs.Build.ScratchRuns
import ScriptWeave.Proofs.Component.Simultaneous
import ScriptWeave.Proofs.Component.WrittenAttributes
import ScriptWeave.Proofs.Pattern.Escaped
import ScriptWeave.Proofs.Script.StandingKeywords
import ScriptWeave.Proofs.Options.Completion
import ScriptWeave.Proofs.Build.FoundComponents
import ScriptWeave.Proofs.Program.Redeclarations
