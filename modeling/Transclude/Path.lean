/-!
# Paths

A path is a root and a list of names. Reading a path drops empty names and the name `.`, so
repeated and trailing slashes leave no trace; the name `..` is kept, because what it means depends
on the files. Exactly two slashes in front are a root of their own, and any other positive number
is the same as one.

## Main definitions

* `Path.parse` — the path that a text spells
* `Path.text` — the one text that a path is written as
* `Path.parent` — the path without its last name
* `Path.join` — a path seen from another one

## Main results

* `Path.join_of_rooted`, `Path.join_of_relative` — a rooted path ignores where it is seen from
* `Path.parent_join_single` — the parent of a name in a directory is the directory
-/

namespace Transclude

/-- Where the names of a path start. -/
inductive Root
  /-- At the place the path is seen from. -/
  | relative
  /-- At the top of the file system. -/
  | slash
  /-- At the top, spelled with two slashes. -/
  | doubleSlash
  deriving DecidableEq

namespace Root

/-- How a root is written in front of the names. -/
def text : Root → String
  | relative => ""
  | slash => "/"
  | doubleSlash => "//"

/-- The root that a text begins with. -/
def parse (cs : List Char) : Root :=
  match (cs.takeWhile (· = '/')).length with
  | 0 => relative
  | 2 => doubleSlash
  | _ => slash

end Root

/-- A path: its root and the names on the way. -/
structure Path where
  root : Root
  names : List String
  deriving DecidableEq

namespace Path

/-- The pieces between the slashes of a text, when the piece before the first one goes on from the
characters `piece`, last one first. -/
def pieces (piece : List Char) : List Char → List (List Char)
  | [] => [piece.reverse]
  | c :: rest => if c = '/' then piece.reverse :: pieces [] rest else pieces (c :: piece) rest

/-- Whether a piece is a name: it is neither empty nor the place itself. -/
def isName (piece : List Char) : Bool :=
  piece ≠ [] && piece ≠ ['.']

/-- The path that a text spells. -/
def parse (s : String) : Path :=
  ⟨Root.parse s.toList, ((pieces [] s.toList).filter isName).map String.ofList⟩

/-- The path to the place itself. -/
def here : Path := ⟨.relative, []⟩

/-- The text of a path; the place itself is written as a dot. -/
def text (p : Path) : String :=
  if p = here then "." else p.root.text ++ "/".intercalate p.names

/-- The path without its last name; without names it is its own parent. -/
def parent (p : Path) : Path :=
  { p with names := p.names.dropLast }

/-- The path `q` seen from the directory `p`. -/
def join (p q : Path) : Path :=
  if q.root = .relative then ⟨p.root, p.names ++ q.names⟩ else q

theorem join_of_relative {p q : Path} (h : q.root = .relative) :
    p.join q = ⟨p.root, p.names ++ q.names⟩ := by
  simp [join, h]

theorem join_of_rooted {p q : Path} (h : q.root ≠ .relative) : p.join q = q := by
  simp [join, h]

theorem parent_join_single (p : Path) (name : String) :
    (p.join ⟨.relative, [name]⟩).parent = p := by
  simp [join, parent]

end Path

end Transclude
