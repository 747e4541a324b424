import Transclude.Error.Abort

/-!
# Rendering

A reduced document is rendered by joining its passages. A call that is left has no text.

## Main definitions

* `Document.render` — the text of a document, or the first call that is left

## Main results

* `Document.render_ofPassages` — passages render as the concatenation of their contents
-/

namespace Transclude.Document

/-- The text of nodes that are all plain text. -/
def renderNodes : List Node → Except Abort String
  | [] => .ok ""
  | .text passage :: rest => (passage.content ++ ·) <$> renderNodes rest
  | .call call :: _ => .error (.unexpandedCall call)

/-- The text of a reduced document. -/
def render (d : Document) : Except Abort String :=
  renderNodes d.nodes

theorem render_ofPassages (passages : List Passage) :
    (ofPassages passages).render = .ok (String.join (passages.map Passage.content)) := by
  have joined (strings : List String) (first : String) :
      String.join (first :: strings) = first ++ String.join strings := by
    simp
  induction passages with
  | nil => rfl
  | cons passage rest ih =>
    have ih : renderNodes (rest.map .text) = .ok (String.join (rest.map Passage.content)) := ih
    simp only [render, ofPassages, List.map_cons, renderNodes, ih, joined]
    rfl

end Transclude.Document
