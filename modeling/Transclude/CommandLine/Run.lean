import Transclude.CommandLine.Usage
import Transclude.CommandLine.Watch

/-!
# Runs of the command line

A run reads the command line, resolves the options, and then makes one attempt or watches. Its
exit code tells the stage that failed: two for a command line or configuration that is rejected
and for an error while calls are carried out, one for an input that cannot be read or is spelled
wrongly, and zero for success.

## Main definitions

* `Ending` — how a run ends
* `Outcome` — what a run shows and leaves behind
* `Category.exitCode` — the exit code that an error comes to
* `CommandLine.run` — the run of a command line over a file tree
-/

namespace Transclude

/-- How a run ends. -/
inductive Ending
  /-- The run was finished, with a code. -/
  | exited (code : Nat)
  /-- The command line was left before anything was done, with a code. -/
  | dismissed (code : Nat)
  | aborted (abort : Abort)
  deriving DecidableEq

/-- What a run shows and leaves behind. -/
structure Outcome where
  stdout : String
  stderr : String
  /-- The looks of a watch. -/
  polls : List Poll
  /-- The files after the last edit, and after what followed it. -/
  before : FileTree
  files : FileTree
  ending : Ending

/-- The exit code that an error comes to. -/
def Category.exitCode : Category → Nat
  | spelling | source => 1
  | provider | general => 2

namespace Outcome

/-- The outcome of a run that leaves the files as they are. -/
def unchanged (files : FileTree) (stdout stderr : String) (ending : Ending) : Outcome :=
  ⟨stdout, stderr, [], files, files, ending⟩

/-- The outcome of a watch. A watch that nothing broke off was ended by the user. -/
def ofWatched (w : Watched) : Outcome :=
  ⟨"", w.shown, w.polls, w.before, w.files, w.abort.elim (.exited 0) .aborted⟩

/-- The outcome of a command line that is left at once. -/
def ofDeparture (files : FileTree) : Departure → Outcome
  | .help => unchanged files helpText "" (.dismissed 0)
  | .fault fault => unchanged files "" (usageErrorText fault.message) (.dismissed 2)

/-- The outcome of a command line that gives no options. -/
def ofOptionFailure (files : FileTree) : Failure OptionFault → Outcome
  | .reported fault => unchanged files "" s!"error: {fault.message}\n" (.exited 2)
  | .aborted abort => unchanged files "" "" (.aborted abort)

end Outcome

/-- The outcome of a single attempt. -/
def Options.finish (o : Options) (files : FileTree) (attempt : Attempt) : Outcome :=
  match attempt.result with
  | .error (.reported error) =>
    .unchanged files "" (attempt.shown ++ error.report ++ "\n") (.exited error.category.exitCode)
  | .error (.aborted abort) => .unchanged files "" attempt.shown (.aborted abort)
  | .ok text =>
    match o.writeOutput files text with
    | .error abort => .unchanged files "" attempt.shown (.aborted abort)
    | .ok written => ⟨"", attempt.shown, [], files, written, .exited 0⟩

/-- The outcome of a run whose options are resolved. The edits are made between the looks of a
watch. -/
def Options.run (o : Options) (room : Nat) (files : FileTree)
    (edits : List (FileTree → FileTree)) : Outcome :=
  if o.watch then .ofWatched (o.watchEdits room files edits)
  else o.finish files (o.attempt room files)

/-- The outcome of a command line, with room for `room` calls within one another. The edits are made
between the looks of a watch. -/
def CommandLine.run (room : Nat) (words : List String) (files : FileTree)
    (edits : List (FileTree → FileTree)) : Outcome :=
  match Arguments.parse words with
  | .error departure => .ofDeparture files departure
  | .ok arguments =>
    match Options.resolve arguments files with
    | .error failure => .ofOptionFailure files failure
    | .ok o => o.run room files edits

end Transclude
