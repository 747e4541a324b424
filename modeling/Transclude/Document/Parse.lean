import Transclude.Document.Invocation
import Transclude.Document.Scan
import Transclude.Error.Basic

/-!
# Reading documents

A source text is scanned for calls, and every piece of it is read as a node: plain text as it is,
and what stands between braces as the spelling of a call. The first call that is misspelled is the
error of the whole text.

## Main definitions

* `Piece.read` — the node that a piece spells
* `Document.parse` — the document that a source text spells
-/

namespace Transclude

/-- The node that a piece spells, in the document `origin` of text `source`. A fault in the
spelling is located at the piece. -/
def Piece.read (origin : Path) (source : String) :
    Piece → Except (Failure CompilationError) Node
  | text content span => .ok (.text ⟨String.ofList content, origin, some span⟩)
  | call body span =>
    match Invocation.ofBody body with
    | .ok ⟨function, arguments⟩ => .ok (.call ⟨function, arguments, origin, some span⟩)
    | .error failure =>
      .error (failure.map fun fault =>
        (CompilationError.ofFault (.spelling fault)).locate ⟨origin, some span, source⟩)

/-- The document that a source text spells. -/
def Document.parse (source : String) (origin : Path) : Except (Failure CompilationError) Document :=
  ((Piece.scan source.toList).mapM (Piece.read origin source)).map Document.mk

end Transclude
