import Transclude.Document.Parse
import Transclude.Expansion.Basic
import Transclude.Provider.Include

/-!
# Diagnostics for editors

An open document is diagnosed by reading it and expanding it over the files beside it. The first
error becomes a diagnostic: an error of the document's own spelling is an error there, and one of
expansion is a warning. A diagnostic always points into the open document: at the outermost call
that the error escaped from if there is one, and at the error's own place otherwise.

Editors count lines and characters from zero.

## Main definitions

* `Diagnostic` — a message for a range of the open document
* `Diagnostic.ofError` — the diagnostic that an error becomes
* `FileTree.diagnose` — the diagnostics of an open document
-/

namespace Transclude

/-- A place in an open document. -/
structure EditorPosition where
  line : Int
  character : Int
  deriving DecidableEq

/-- A stretch of an open document. -/
structure EditorRange where
  start : EditorPosition
  stop : EditorPosition
  deriving DecidableEq

/-- How serious a diagnostic is. -/
inductive Severity
  | error
  | warning
  deriving DecidableEq

/-- A message for a range of an open document. -/
structure Diagnostic where
  range : EditorRange
  message : String
  severity : Severity
  deriving DecidableEq

/-- A coordinate that counts from zero, from one that counts from one. -/
def Coordinate.fromZero (coordinate : Coordinate) (n : Int) : Except Abort Int :=
  let value := n - 1
  if 0 ≤ value ∧ value ≤ maxCoordinate then .ok value
  else .error (.outOfRange coordinate value)

/-- The place that an editor knows a position by. -/
def EditorPosition.ofPosition (p : Position) : Except Abort EditorPosition := do
  let line ← Coordinate.line.fromZero p.line
  let character ← Coordinate.character.fromZero p.column
  return ⟨line, character⟩

namespace EditorRange

/-- The empty range at the beginning of a document. -/
def beginning : EditorRange := ⟨⟨0, 0⟩, ⟨0, 0⟩⟩

/-- The range that an editor knows a span by. -/
def ofSpan (span : Span) : Except Abort EditorRange := do
  let start ← EditorPosition.ofPosition span.start
  let stop ← EditorPosition.ofPosition span.stop
  return ⟨start, stop⟩

end EditorRange

/-- The span of the open document that an error concerns, if any. -/
def CompilationError.outermostSpan? (error : CompilationError) : Option Span :=
  match error.trace.expansion.getLast? with
  | some call => call.span
  | none => error.trace.location.bind Location.span

/-- The message of an error with the functions whose calls it escaped from, outermost first. -/
def CompilationError.messageWithChain (error : CompilationError) : String :=
  if error.trace.expansion = [] then error.message
  else
    let chain := " -> ".intercalate (error.trace.expansion.reverse.map Call.function)
    s!"{error.message} (in expansion: {chain})"

/-- The diagnostic that an error becomes. -/
def Diagnostic.ofError (severity : Severity) (error : CompilationError) :
    Except Abort Diagnostic := do
  let range ← (error.outermostSpan?.map EditorRange.ofSpan).getD (.ok .beginning)
  return ⟨range, error.messageWithChain, severity⟩

/-- How deep calls may nest in an open document. -/
def editorLimit : Int := 64

/-- The diagnostics that a failure comes to, if it is reported. -/
def Diagnostic.ofFailure (severity : Severity) :
    Failure CompilationError → Except Abort (List Diagnostic)
  | .reported error => do return [← Diagnostic.ofError severity error]
  | .aborted abort => .error abort

/-- The diagnostics of the open document at `path` with the given text. -/
def FileTree.diagnose (files : FileTree) (path : Path) (text : String) :
    Except Abort (List Diagnostic) :=
  match Document.parse text path with
  | .error failure => Diagnostic.ofFailure .error failure
  | .ok document =>
    let expander : Expander := ⟨.standard files, false⟩
    match (expander.expand (some editorLimit) defaultCapacity document).result with
    | .error failure => Diagnostic.ofFailure .warning failure
    | .ok _ => .ok []

end Transclude
