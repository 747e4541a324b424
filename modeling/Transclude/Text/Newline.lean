/-!
# Line endings of documents

A document's lines may end in a line feed, in a carriage return, or in a carriage return with a
line feed behind it. When a document is read, each of them becomes a line feed.

## Main definitions

* `normalizeNewlines` — a text with line feeds for line endings
-/

namespace Transclude

/-- The text with every line ending replaced by a line feed. The characters `read`, last one first,
have been gone through already. -/
def normalizeNewlinesFrom (read : List Char) : List Char → List Char
  | [] => read.reverse
  | '\r' :: '\n' :: rest => normalizeNewlinesFrom ('\n' :: read) rest
  | c :: rest => normalizeNewlinesFrom ((if c = '\r' then '\n' else c) :: read) rest

/-- The text with every line ending replaced by a line feed. -/
def normalizeNewlines (cs : List Char) : List Char :=
  normalizeNewlinesFrom [] cs

end Transclude
