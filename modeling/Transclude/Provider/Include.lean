import Transclude.Document.Parse
import Transclude.FileTree.Source
import Transclude.Provider.Basic

/-!
# Including files

The function `include` takes one path and produces the document that the file there spells. The
path is seen from the directory of the calling document, and the included document has the joined
path as its origin, so that its own calls are seen from its own directory.

## Main definitions

* `SourceFault.failure` — what a file that cannot be read means to the one who needs it
* `Provider.ofFiles` — the provider of `include` over a file tree
* `Registry.standard` — the registry of a program without providers of its own
-/

namespace Transclude

/-- What an unreadable file means to the one who needs it: a fault made from the reason is
reported, except that a path which the system never sees breaks off the run. -/
def SourceFault.failure (path : Path) (fault : String → Fault) :
    SourceFault → Failure CompilationError
  | .access .nulInPath => .aborted (.inaccessible path .nulInPath)
  | .access cause => .reported (.ofFault (fault (cause.message path)))
  | .encoding cause => .reported (.ofFault (fault cause.message))

/-- The descriptor of `include`. -/
def includeDescriptor : Descriptor :=
  ⟨"include", [[.path]]⟩

/-- The document at a path, as a part of another one. An error in its spelling becomes the cause of
an error of the including document. -/
def FileTree.includedDocument (files : FileTree) (path : Path) :
    Except (Failure CompilationError) Document :=
  match files.readSource path with
  | .error fault =>
    .error (fault.failure path fun reason => .external s!"cannot read {path.text}: {reason}")
  | .ok source => (Document.parse source path).mapError (·.map .ofCause)

/-- Carries out a call of `include`. -/
def FileTree.carryOutInclude (files : FileTree) (function : String) (arguments : List Value)
    (directory : Path) : Production :=
  if function ≠ includeDescriptor.name then
    ⟨[], .error (.reported (.ofFault (.functionNotFound function)))⟩
  else
    match arguments with
    | [.path path] =>
      let joined := directory.join path
      ⟨[joined], files.includedDocument joined⟩
    | _ =>
      let fault := .invalidArguments "include expects a single path argument"
      ⟨[], .error (.reported (.ofFault fault))⟩

/-- The provider of `include` over a file tree. -/
def Provider.ofFiles (files : FileTree) : Provider :=
  ⟨"IncludeProvider", [includeDescriptor], files.carryOutInclude⟩

/-- The registry of a program without providers of its own. -/
def Registry.standard (files : FileTree) : Registry :=
  ⟨[.ofFiles files]⟩

end Transclude
