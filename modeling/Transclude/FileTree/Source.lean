import Transclude.FileTree.Basic
import Transclude.Text.Newline
import Transclude.Text.Utf8

/-!
# Reading source files

A source file is read as UTF-8, and then its line endings are made line feeds. A byte order mark is
kept as a character.

## Main definitions

* `SourceFault` — why a source file cannot be read
* `FileTree.readSource` — the text of a source file
-/

namespace Transclude

/-- Why a source file cannot be read. -/
inductive SourceFault
  | access (fault : AccessFault)
  | encoding (fault : Utf8.Fault)
  deriving DecidableEq

/-- The text that bytes of a source file spell. -/
def decodeSource (bytes : List UInt8) : Except Utf8.Fault String :=
  (Utf8.decode bytes).map fun text => String.ofList (normalizeNewlines text.toList)

/-- The text of a source file. -/
def FileTree.readSource (t : FileTree) (path : Path) : Except SourceFault String :=
  match t.read path with
  | .error fault => .error (.access fault)
  | .ok bytes => (decodeSource bytes).mapError .encoding

end Transclude
