import Transclude.Error.Abort

/-!
# Listings

A document is listed for inspection with one line for each node, below a title. A line tells the
kind of the node, what it holds, and where it starts. Only documents whose nodes all have a place
are listed.

## Main definitions

* `Document.listing` — the lines of a listing
* `Document.list` — the listing of a document, if it can be listed
-/

namespace Transclude

/-- How an argument is listed. -/
def Value.listing : Value → String
  | .string s => s!"String({quoted s})"
  | .path p => s!"Path({quoted p.text})"
  | .number n => s!"Number({n})"

/-- How a place in a document is written. -/
def placeText (origin : Path) (position : Position) : String :=
  s!"{origin.text}:{position.line}:{position.column}"

/-- How the start of a node is written; of a node without a place, only the file is told. -/
def startText (origin : Path) : Option Span → String
  | some span => placeText origin span.start
  | none => origin.text

/-- The line of a node. -/
def Node.listing : Node → String
  | .text t => s!"  Text({quoted t.content}) @ {startText t.origin t.span}"
  | .call c =>
    let arguments := ", ".intercalate (c.arguments.map Value.listing)
    s!"  Call {c.function}({arguments}) @ {startText c.origin c.span}"

/-- The lines of a listing, under a title. -/
def Document.listing (d : Document) (title : String) : String :=
  String.join ((title :: d.nodes.map Node.listing).map (· ++ "\n"))

/-- The listing of a document under a title, if every node has a place. -/
def Document.list (d : Document) (title : String) : Except Abort String :=
  if d.isPlaced then .ok (d.listing title) else .error .unplacedNode

end Transclude
