import Transclude.Document.Value
import Transclude.Text.Position

/-!
# Documents

A document is a list of nodes: passages of plain text and calls that stand for text still to be
produced. Every node knows the file it comes from, and the stretch of that file if it was read from
one; a node that was put together otherwise has no place in the file.

## Main definitions

* `Passage`, `Call`, `Node` — plain text, a call, and either of them
* `Document` — nodes in reading order
* `Document.isPlaced` — whether every node has a place
* `Document.isReduced` — whether no call is left
-/

namespace Transclude

/-- A run of plain text. -/
structure Passage where
  content : String
  origin : Path
  span : Option Span
  deriving DecidableEq

/-- A call: the text that a function produces from arguments is to stand here. -/
structure Call where
  function : String
  arguments : List Value
  origin : Path
  span : Option Span
  deriving DecidableEq

/-- A part of a document. -/
inductive Node
  | text (passage : Passage)
  | call (call : Call)
  deriving DecidableEq

/-- Whether a node is plain text. -/
def Node.isText : Node → Bool
  | .text _ => true
  | .call _ => false

/-- The place of a node. -/
def Node.span : Node → Option Span
  | .text t => t.span
  | .call c => c.span

/-- Nodes in reading order. -/
structure Document where
  nodes : List Node
  deriving DecidableEq

namespace Document

/-- Whether no call is left in the document. -/
def isReduced (d : Document) : Bool :=
  d.nodes.all Node.isText

/-- Whether every node of the document has a place. -/
def isPlaced (d : Document) : Bool :=
  d.nodes.all (·.span.isSome)

/-- The document made of passages alone. -/
def ofPassages (passages : List Passage) : Document :=
  ⟨passages.map .text⟩

@[simp] theorem isReduced_ofPassages (passages : List Passage) :
    (ofPassages passages).isReduced = true := by
  simp [isReduced, ofPassages, Node.isText]

end Document

end Transclude
