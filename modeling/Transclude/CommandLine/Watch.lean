import Transclude.CommandLine.Attempt
import Transclude.FileTree.Seconds

/-!
# Watching

A watch looks at the input again and again. Whenever the time of its last modification is told
differently from the one seen at the last attempt, the input is compiled once more; before the first
attempt that time counts as zero. An error is reported and the watch goes on, and so it does after
endless expansion; nothing else that breaks off an attempt is caught.

## Main definitions

* `Poll` — one look at the input, and what came of it
* `Options.poll` — look at the input once
* `Options.watchEdits` — watch the input while others edit the files
-/

namespace Transclude

/-- One look at the input. -/
structure Poll where
  shown : String
  /-- The attempt that was made, if one was. -/
  attempt : Option Attempt
  /-- The files before the look and after it. -/
  before : FileTree
  after : FileTree

/-- What remains of a look at the input. -/
structure Looked where
  shown : String
  /-- The attempt that was made, if one was. -/
  attempt : Option Attempt
  /-- The time of modification seen at the last attempt. -/
  lastSeen : Time
  files : FileTree
  /-- What broke off the watch, if anything did. -/
  abort : Option Abort

namespace Options

/-- What a watch says at its beginning. -/
def watchGreeting (o : Options) : String :=
  s!"Watching {o.inputFile.text} for changes...\n"

/-- What a watch says of success. -/
def successNotice (o : Options) : String :=
  s!"Compiled {o.inputFile.text}\n"

/-- What a watch says of endless expansion. -/
def endlessNotice : String :=
  "error: include recursion too deep (try --max-depth)\n"

/-- What an attempt of a watch comes to. -/
def conclude (o : Options) (files : FileTree) (seen : Time) (attempt : Attempt) : Looked :=
  match attempt.result with
  | .error (.reported error) =>
    ⟨attempt.shown ++ error.report ++ "\n", some attempt, seen, files, none⟩
  | .error (.aborted .endless) => ⟨attempt.shown ++ endlessNotice, some attempt, seen, files, none⟩
  | .error (.aborted abort) => ⟨attempt.shown, some attempt, seen, files, some abort⟩
  | .ok text =>
    match o.writeOutput files text with
    | .error abort => ⟨attempt.shown, some attempt, seen, files, some abort⟩
    | .ok files => ⟨attempt.shown ++ o.successNotice, some attempt, seen, files, none⟩

/-- Looks at the input, which was last compiled when its time of modification was `lastSeen`. -/
def poll (o : Options) (room : Nat) (files : FileTree) (lastSeen : Time) : Looked :=
  match files.modified o.inputFile with
  | .error .nulInPath => ⟨"", none, lastSeen, files, some (.inaccessible o.inputFile .nulInPath)⟩
  | .error _ => ⟨"", none, lastSeen, files, none⟩
  | .ok seen =>
    if seen.seconds = lastSeen.seconds then ⟨"", none, lastSeen, files, none⟩
    -- The time counts as seen whatever the attempt comes to, so a failure is not repeated.
    else o.conclude files seen (o.attempt room files)

end Options

/-- What a watch has shown. -/
structure Watched where
  polls : List Poll
  /-- What was shown since the last completed look. -/
  shown : String
  /-- The attempt that broke off the watch, if one did. -/
  attempt : Option Attempt
  /-- The files after the last edit, and after what followed it. -/
  before : FileTree
  files : FileTree
  abort : Option Abort

namespace Watched

/-- The watch with an earlier look in front. -/
def cons (poll : Poll) (w : Watched) : Watched :=
  { w with polls := poll :: w.polls }

end Watched

/-- Watches the input while the files are edited, once after each look; behind the last edit there
is one more look. -/
def Options.watchFrom (o : Options) (room : Nat) (shown : String) (files : FileTree)
    (lastSeen : Time) (edits : List (FileTree → FileTree)) : Watched :=
  let looked := o.poll room files lastSeen
  let shown := shown ++ looked.shown
  match looked.abort with
  | some abort => ⟨[], shown, looked.attempt, files, looked.files, some abort⟩
  | none =>
    let poll : Poll := ⟨shown, looked.attempt, files, looked.files⟩
    match edits with
    | [] => ⟨[poll], "", none, files, looked.files, none⟩
    | edit :: rest => (o.watchFrom room "" (edit looked.files) looked.lastSeen rest).cons poll

/-- Watches the input while the files are edited. -/
def Options.watchEdits (o : Options) (room : Nat) (files : FileTree)
    (edits : List (FileTree → FileTree)) : Watched :=
  o.watchFrom room o.watchGreeting files 0 edits

end Transclude
