import Transclude.CommandLine.Run

/-!
# The program

The command line over the files of the disk. What a run asks of the files is looked up on the disk
first and handed to the run as a file tree; which files are included is only known from an attempt,
so attempts are made until no further file is asked for. What a run changes is then written back.

## Main definitions

* `Disk.observe` — a file tree with what the disk holds on the way to a path
* `Disk.gather` — a file tree with all that an attempt asks for
* `main` — the program
-/

namespace Transclude.Disk

/-- The path of a place, as the disk knows it. -/
def diskPath (place : Place) : String :=
  "/" ++ "/".intercalate place

/-- What the disk holds at a place, if anything. -/
def held? (place : Place) : IO (Option Entry) := do
  let path := (← IO.currentDir) / diskPath place
  try
    let metadata ← path.metadata
    let time : Time := metadata.modified.sec * 1000000000 + metadata.modified.nsec.toNat
    if metadata.type == .dir then return some (.directory time)
    return some (.file (← IO.FS.readBinFile path).toList time)
  catch _ => return none

/-- The tree that knows nothing of the disk but the working directory. -/
def unseen : IO FileTree := do
  let working := Path.parse (← IO.currentDir).toString
  return .empty working.names 0 (some FileTree.usualPathLimit)

/-- The tree with what the disk holds on the way to a path. -/
def observe (tree : FileTree) (path : Path) : IO FileTree := do
  if FileTree.hasNul path then return tree
  (tree.placesOnTheWay path).foldlM
    (fun tree place => do
      match ← held? place with
      | some entry => return tree.put place entry
      | none => return tree) tree

/-- The tree with what the disk holds on the way to several paths. -/
def observeAll (tree : FileTree) (paths : List Path) : IO FileTree :=
  paths.foldlM observe tree

/-- The tree with all that an attempt asks for, when the paths `seen` are in it already. -/
partial def gather (o : Options) (seen : List Path) (tree : FileTree) : IO FileTree := do
  match (o.attempt defaultCapacity tree).included.filter (!seen.contains ·) with
  | [] => return tree
  | missing => gather o (seen ++ missing) (← observeAll tree missing)

/-- Writes the output to the disk if it differs between two trees. -/
def commit (o : Options) (before after : FileTree) : IO Unit := do
  if (before.find o.outputFile).toOption = (after.find o.outputFile).toOption then return
  match after.read o.outputFile with
  | .ok bytes =>
    IO.FS.writeBinFile ((← IO.currentDir) / o.outputFile.text) ⟨bytes.toArray⟩
  | .error _ => return

/-- The exit code of the process. -/
def exitCode : Ending → UInt32
  | .exited code | .dismissed code => code.toUInt32
  | .aborted _ => 1

/-- Says how a run broke off, if it did. -/
def sayAbort : Option Abort → IO Unit
  | some .endless => IO.eprint Options.endlessNotice
  | some abort => IO.eprintln s!"aborted: {abort.message}"
  | none => return

/-- The condition that broke off a run, if one did. -/
def abort? : Ending → Option Abort
  | .aborted abort => some abort
  | _ => none

/-- Shows the outcome of a run, and ends with its code. -/
def finish (outcome : Outcome) : IO UInt32 := do
  IO.print outcome.stdout
  IO.eprint outcome.stderr
  sayAbort (abort? outcome.ending)
  return exitCode outcome.ending

/-- The time between two looks of a watch, in milliseconds. -/
def watchInterval : UInt32 := 500

/-- Looks at the input again and again. -/
partial def watch (o : Options) (lastSeen : Time) : IO UInt32 := do
  let tree ← observeAll (← unseen) [o.inputFile, o.outputFile]
  let seen := (tree.modified o.inputFile).toOption
  let tree ← if seen.map Time.seconds = some lastSeen.seconds then pure tree else gather o [] tree
  let looked := o.poll defaultCapacity tree lastSeen
  commit o tree looked.files
  IO.eprint looked.shown
  match looked.abort with
  | some abort =>
    sayAbort (some abort)
    return 1
  | none =>
    IO.sleep watchInterval
    watch o looked.lastSeen

/-- Makes one attempt. -/
def once (o : Options) (tree : FileTree) : IO UInt32 := do
  let tree ← gather o [] (← observeAll tree [o.inputFile, o.outputFile])
  let outcome := o.finish tree (o.attempt defaultCapacity tree)
  commit o outcome.before outcome.files
  finish outcome

/-- Runs a command line. -/
def run (words : List String) : IO UInt32 := do
  let tree ← unseen
  match Arguments.parse words with
  | .error departure => finish (.ofDeparture tree departure)
  | .ok arguments =>
    let tree ← observe tree arguments.configurationFile
    match Options.resolve arguments tree with
    | .error failure => finish (.ofOptionFailure tree failure)
    | .ok o =>
      if o.watch then
        IO.eprint o.watchGreeting
        watch o 0
      else once o tree

end Transclude.Disk

def main (words : List String) : IO UInt32 :=
  Transclude.Disk.run words
