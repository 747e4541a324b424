import Transclude.Calendar.Moment
import Transclude.CommandLine.Arguments
import Transclude.CommandLine.Attempt
import Transclude.CommandLine.Options
import Transclude.CommandLine.Run
import Transclude.CommandLine.Usage
import Transclude.CommandLine.Watch
import Transclude.Compilation
import Transclude.Decimal.Real
import Transclude.Decimal.Shortest
import Transclude.Document.Basic
import Transclude.Document.Invocation
import Transclude.Document.Listing
import Transclude.Document.Parse
import Transclude.Document.Render
import Transclude.Document.Scan
import Transclude.Document.Value
import Transclude.Editor.Diagnostic
import Transclude.Error.Abort
import Transclude.Error.Basic
import Transclude.Error.Fault
import Transclude.Error.Report
import Transclude.Expansion.Basic
import Transclude.Expansion.Run
import Transclude.FileTree.Access
import Transclude.FileTree.Basic
import Transclude.FileTree.Seconds
import Transclude.FileTree.Source
import Transclude.Main
import Transclude.Path
import Transclude.Proofs.Expansion.Attribution
import Transclude.Proofs.Expansion.Depth
import Transclude.Proofs.Expansion.Derivation
import Transclude.Proofs.Expansion.Dispatch
import Transclude.Proofs.Expansion.Inclusion
import Transclude.Proofs.Expansion.Nesting
import Transclude.Proofs.Place
import Transclude.Proofs.Splitting.Basic
import Transclude.Proofs.Splitting.Outline
import Transclude.Proofs.Splitting.Pair
import Transclude.Proofs.Splitting.Scan
import Transclude.Proofs.Splitting.Tiling
import Transclude.Proofs.Traversal
import Transclude.Provider.Basic
import Transclude.Provider.Fixed
import Transclude.Provider.Include
import Transclude.Settings.Depth
import Transclude.Settings.Setting
import Transclude.Text.Alphanumeric
import Transclude.Text.Blank
import Transclude.Text.CharRange
import Transclude.Text.Digit
import Transclude.Text.Lines
import Transclude.Text.Newline
import Transclude.Text.Numeral
import Transclude.Text.Position
import Transclude.Text.Printable
import Transclude.Text.Quoted
import Transclude.Text.Utf8
import Transclude.Toml.Document
import Transclude.Toml.Key
import Transclude.Toml.Literal
import Transclude.Toml.Moment
import Transclude.Proofs.Expansion.Rewriting
import Transclude.Proofs.Splitting.Misspelling
import Transclude.Proofs.Editor.Diagnosis
import Transclude.Proofs.Path
import Transclude.Proofs.Printing.Argument
import Transclude.Proofs.Printing.Call
import Transclude.Proofs.Printing.Template
import Transclude.Proofs.Splitting.Concatenation
import Transclude.Proofs.Compilation
import Transclude.Proofs.Inlining
import Transclude.Proofs.Expansion.Simulation
import Transclude.Proofs.Expansion.Exhaustion
import Transclude.Proofs.FileTree.Following
import Transclude.Proofs.Endless
import Transclude.Proofs.Provenance
import Transclude.Proofs.FileTree.Moving
import Transclude.Proofs.Relocation
import Transclude.Proofs.CommandLine.Breaking
import Transclude.Proofs.CommandLine.Once
import Transclude.Proofs.Toml
import Transclude.Proofs.CommandLine.Configuration
import Transclude.Proofs.CommandLine.Reporting
import Transclude.Proofs.CommandLine.Timing
import Transclude.Proofs.CommandLine.Watching
import Transclude.Proofs.CommandLine.Repetition
import Transclude.Proofs.CommandLine.Survival
import Transclude.Proofs.Spelling.Numeral
import Transclude.Proofs.Spelling.Region
import Transclude.Proofs.Splitting.FirstFault
import Transclude.Proofs.Splitting.Outcome
import Transclude.Proofs.Expansion.Progress
import Transclude.Proofs.Expansion.Invocation
import Transclude.Proofs.Splitting.Juxtaposition
import Transclude.Proofs.Utf8
import Transclude.Proofs.FileTree.Reading
import Transclude.Proofs.Expansion.Including
import Transclude.Proofs.Lines
import Transclude.Proofs.Splitting.Snippet
import Transclude.Proofs.Expansion.Machine
import Transclude.Proofs.Termination
import Transclude.Proofs.Expansion.Extension
import Transclude.Proofs.Expansion.Checking
import Transclude.Proofs.Expansion.Declaration
import Transclude.Proofs.Expansion.Registration
import Transclude.Proofs.Expansion.Spans
import Transclude.Proofs.CommandLine.Telling
import Transclude.Proofs.CommandLine.Precedence
import Transclude.Proofs.Spelling.Lenient
import Transclude.Proofs.Editor.Protocol
import Transclude.Proofs.Printing.Quotation
import Transclude.Proofs.Printing.Line
import Transclude.Proofs.Printing.Listing
