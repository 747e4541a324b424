import Transclude.Document.Parse
import Transclude.Document.Render
import Transclude.Expansion.Basic

/-!
# Compilation

A source text is compiled by reading it as a document, expanding the document and joining the
passages that are left.

## Main definitions

* `Expander.compile` — the text that a source compiles to
-/

namespace Transclude

/-- The text of passages, one after the other. -/
def joinPassages (passages : List Passage) : String :=
  String.join (passages.map Passage.content)

/-- The text that a source compiles to, when it stands in the file `origin`. -/
def Expander.compile (e : Expander) (limit : Option Int) (capacity : Nat) (source : String)
    (origin : Path) : Run String := do
  let document ← Run.ofResult (Document.parse source origin)
  let passages ← e.expand limit capacity document
  return joinPassages passages

end Transclude
