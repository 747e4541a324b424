import Transclude.Path
import Transclude.Text.Quoted

/-!
# Faults of the file system

What can go wrong when a path is followed, opened or written. Every fault but the last is the
system's answer, told with its number; a path that holds a null character is refused before the
system is asked.

## Main definitions

* `AccessFault` — the faults
* `AccessFault.message` — how a fault at a path is told
-/

namespace Transclude

/-- What can go wrong when a path is followed, opened or written. -/
inductive AccessFault
  /-- A name on the way is missing. -/
  | notFound
  /-- A name that is gone through is a file. -/
  | notDirectory
  /-- The path leads to a directory where a file is needed. -/
  | isDirectory
  /-- A name, or the whole path, has too many bytes. -/
  | nameTooLong
  /-- The path holds a null character. -/
  | nulInPath
  deriving DecidableEq

namespace AccessFault

/-- The system's number and words for a fault; none for a path that the system never sees. -/
def systemText : AccessFault → Option String
  | notFound => some "[Errno 2] No such file or directory"
  | notDirectory => some "[Errno 20] Not a directory"
  | isDirectory => some "[Errno 21] Is a directory"
  | nameTooLong => some "[Errno 36] File name too long"
  | nulInPath => none

/-- How a fault at a path is told. -/
def message (path : Path) (fault : AccessFault) : String :=
  match fault.systemText with
  | some text => text ++ ": " ++ quoted path.text
  | none => "embedded null byte"

end AccessFault

end Transclude
