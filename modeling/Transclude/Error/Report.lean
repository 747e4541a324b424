import Transclude.Document.Listing
import Transclude.Error.Basic
import Transclude.Text.Lines

/-!
# Reports of compilation errors

An error is reported by its message, then by its location, and then by the chain of calls it
escaped from, outermost first. A location with a span shows the line on which the span starts, as
the text is displayed, and underlines the span there: as wide as it is if it ends on the line it
starts on, to the end of the line otherwise, and by at least one mark. The report of a nested error
ends with the report of its cause, set in by two blanks.

## Main definitions

* `Location.report` — the lines that show a location
* `CompilationError.chain` — the calls that an error escaped from
* `CompilationError.report` — the lines that report an error
* `CompilationError.reportIfPlaced` — the report of an error, if it can be reported
-/

namespace Transclude

/-- A text of `n` times the character `c`. -/
def repeated (n : Nat) (c : Char) : String :=
  String.ofList (List.replicate n c)

/-- How many marks underline a span on the line where it starts. -/
def Span.underlineLength (span : Span) (line : String) : Nat :=
  if span.stop.line = span.start.line then max 1 (span.stop.column - span.start.column).toNat
  else max 1 (line.length + 1 - span.start.column).toNat

/-- The displayed line of a text with the given number; lines are counted from one. -/
def displayLine? (source : String) (number : Int) : Option String :=
  if 1 ≤ number then (displayLines source)[(number - 1).toNat]? else none

/-- The lines that show a span of a document. -/
def Span.report (span : Span) (origin : Path) (source : String) : String :=
  let number := toString span.start.line
  let gutter := repeated (number.length + 1) ' '
  let header := s!"{gutter}--> {placeText origin span.start}"
  match displayLine? source span.start.line with
  | none => header
  | some line =>
    let indent := repeated (span.start.column - 1).toNat ' '
    let underline := repeated (span.underlineLength line) '^'
    s!"{header}\n{gutter}|\n{number} | {line}\n{gutter}| {indent}{underline}"

/-- The lines that show a location. -/
def Location.report (location : Location) : String :=
  match location.span with
  | none => s!"  --> {location.origin.text}"
  | some span => span.report location.origin location.source

/-- A call as it stands in a chain: its place and its function. -/
def Call.chainLink (call : Call) : String :=
  s!"{startText call.origin call.span} {call.function}"

/-- The lines that tell a trace, each after a line break. -/
def Trace.report (trace : Trace) : String :=
  let location :=
    match trace.location with
    | none => ""
    | some location => "\n" ++ location.report
  let chain :=
    if trace.expansion = [] then ""
    else "\n  in expansion chain: " ++
      " -> ".intercalate (trace.expansion.reverse.map Call.chainLink)
  location ++ chain

namespace CompilationError

/-- The report of an error. -/
def report (error : CompilationError) : String :=
  let own := s!"error: {error.message}{error.trace.report}"
  match error with
  | simple _ _ => own
  | nested cause _ =>
    let inner := "\n".intercalate ((displayLines cause.report).map ("  " ++ ·))
    s!"{own}\ncaused by:\n{inner}"

/-- The report of an error, if all calls it escaped from have a place. -/
def reportIfPlaced (error : CompilationError) : Except Abort String :=
  if error.isPlaced then .ok error.report else .error .unplacedNode

end CompilationError

end Transclude
