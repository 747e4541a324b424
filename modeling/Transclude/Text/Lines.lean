/-!
# Lines for display

A text that is shown to a reader is cut at every line boundary that Unicode knows, not only at
line feeds: vertical tab, form feed, carriage return (one boundary with a line feed behind it),
the file, group and record separators, next line, and the line and paragraph separators. A
boundary ends the line before it and opens none, so a text that ends in one has no empty last
line.

## Main definitions

* `isLineBreak` — whether a character is a line boundary
* `displayLines` — the lines of a text, without their boundaries
-/

namespace Transclude

/-- Whether a character is a line boundary. -/
def isLineBreak (c : Char) : Bool :=
  let n := c.toNat
  (10 ≤ n && n ≤ 13) || (0x1C ≤ n && n ≤ 0x1E) || n = 0x85 || n = 0x2028 || n = 0x2029

/-- The lines of a text whose current line begins with the characters `line`, last one first. -/
def displayLinesFrom (line : List Char) : List Char → List (List Char)
  | [] => if line.isEmpty then [] else [line.reverse]
  | '\r' :: '\n' :: rest => line.reverse :: displayLinesFrom [] rest
  | c :: rest =>
    if isLineBreak c then line.reverse :: displayLinesFrom [] rest
    else displayLinesFrom (c :: line) rest

/-- The lines of a text, without their boundaries. -/
def displayLines (s : String) : List String :=
  (displayLinesFrom [] s.toList).map String.ofList

end Transclude
