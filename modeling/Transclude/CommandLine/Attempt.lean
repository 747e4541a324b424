import Transclude.CommandLine.Options
import Transclude.Compilation
import Transclude.Document.Listing
import Transclude.Error.Report
import Transclude.FileTree.Source
import Transclude.Provider.Include

/-!
# Attempts

An attempt reads the input, compiles it, and on success writes the output. On the way it may list
the document before and after the expansion and log what the expansion does. An attempt has room for
so many calls within one another and no more. How many these are is not for the attempt to say:
what it does at each call takes room as well, so one that logs its steps may have less of it.

## Main definitions

* `Attempt` — what an attempt shows, and what it comes to
* `Options.listing` — the listing of a document, if listings are asked for
* `Options.attempt` — the attempt that options ask for
* `Options.writeOutput` — the files after the output was written
-/

namespace Transclude

/-- What an attempt shows, which files it included, and what it comes to. -/
structure Attempt where
  shown : String
  included : List Path
  result : Except (Failure CompilationError) String

/-- The files that were asked for in a run. -/
def Event.includedPath? : Event → Option Path
  | including path => some path
  | _ => none

namespace Options

/-- What calls are expanded with. -/
def expander (o : Options) (files : FileTree) : Expander :=
  ⟨.standard files, o.strict⟩

/-- The listing of a document, if listings are asked for. -/
def listing (o : Options) (title : String) (d : Document) : Except Abort String :=
  if o.debug then d.list title else .ok ""

/-- The log of a run, if it is asked for. -/
def log (o : Options) (events : List Event) : String :=
  if o.verbose then String.join (events.map Event.logLine) else ""

/-- The text of the input. -/
def readInput (o : Options) (files : FileTree) : Except (Failure CompilationError) String :=
  (files.readSource o.inputFile).mapError (·.failure o.inputFile (.unreadable o.inputFile))

/-- Expands the document that the input spells, with room for `room` calls within one another. -/
def attemptDocument (o : Options) (room : Nat) (files : FileTree) (d : Document) : Attempt :=
  match o.listing "Segmented" d with
  | .error abort => ⟨"", [], .error (.aborted abort)⟩
  | .ok segmented =>
    let run := (o.expander files).expand (o.maxDepth.map Int.ofNat) room d
    let shown := segmented ++ o.log run.events
    let included := run.events.filterMap Event.includedPath?
    match run.result with
    | .error failure => ⟨shown, included, .error failure⟩
    | .ok passages =>
      match o.listing "Evaluated" (.ofPassages passages) with
      | .error abort => ⟨shown, included, .error (.aborted abort)⟩
      | .ok evaluated => ⟨shown ++ evaluated, included, .ok (joinPassages passages)⟩

/-- Compiles the input. -/
def attempt (o : Options) (room : Nat) (files : FileTree) : Attempt :=
  match o.readInput files >>= (Document.parse · o.inputFile) with
  | .error failure => ⟨"", [], .error failure⟩
  | .ok d => o.attemptDocument room files d

/-- The files after the output was written. -/
def writeOutput (o : Options) (files : FileTree) (text : String) : Except Abort FileTree :=
  (files.write o.outputFile (Utf8.encode text)).mapError (.inaccessible o.outputFile)

end Options

end Transclude
