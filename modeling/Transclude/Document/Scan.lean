import Transclude.Text.Position

/-!
# Scanning for calls

A source text is cut at pairs of braces: two opening ones begin a call, and the next two closing
ones end it. The text is read once, character by character, and nothing is looked up ahead: a pair
is noticed at its second brace, when the character before it is the last one kept. What is kept is
emptied at every pair, so of three braces in a row the first two make the pair. There is no way to
write a pair of opening braces as plain text. Every call is preceded and followed by plain text, be
it empty; when the last call is left open, what follows its braces is plain text.

## Main definitions

* `Piece` — a stretch of source: plain text, or what stands between a pair of braces
* `Scanner` — a scan on its way
* `Scanner.step` — what one more character does to a scan
* `Piece.scan` — the pieces of a source text
-/

namespace Transclude

/-- A stretch of source. -/
inductive Piece
  /-- Plain text. -/
  | text (content : List Char) (span : Span)
  /-- What stands between two pairs of braces; the span includes the braces. -/
  | call (body : List Char) (span : Span)
  deriving DecidableEq

/-- What a scan is reading. -/
inductive Mode
  | text
  /-- A call whose braces stand at the position. -/
  | call (opened : Position)
  deriving DecidableEq

/-- A scan on its way. -/
structure Scanner where
  mode : Mode
  /-- The characters kept for the piece that is being read, last one first. -/
  kept : List Char
  /-- The position of the first character kept. -/
  start : Position
  /-- The position of the last character read. -/
  previous : Position
  /-- The position behind the last character read. -/
  here : Position
  /-- The pieces that are complete, last one first. -/
  done : List Piece

namespace Scanner

/-- The scan before the first character. -/
def initial : Scanner :=
  ⟨.text, [], .origin, .origin, .origin, []⟩

/-- Whether `c` completes a pair of `brace`. -/
def completes (s : Scanner) (brace c : Char) : Bool :=
  c = brace && s.kept.head? = some brace

/-- Reads a character that completes no pair. -/
def keep (s : Scanner) (c : Char) : Scanner :=
  { s with kept := c :: s.kept, previous := s.here, here := s.here.advance c }

/-- Reads the second of two opening braces. The text ends where the first one stands. -/
def openCall (s : Scanner) : Scanner :=
  let next := s.here.advance '{'
  { mode := .call s.previous, kept := [], start := next, previous := s.here, here := next,
    done := .text s.kept.tail.reverse ⟨s.start, s.previous⟩ :: s.done }

/-- Reads the second of two closing braces, those of the call opened at `opened`. -/
def closeCall (s : Scanner) (opened : Position) : Scanner :=
  let next := s.here.advance '}'
  { mode := .text, kept := [], start := next, previous := s.here, here := next,
    done := .call s.kept.tail.reverse ⟨opened, next⟩ :: s.done }

/-- Reads one more character. -/
def step (s : Scanner) (c : Char) : Scanner :=
  match s.mode with
  | .text => if s.completes '{' c then s.openCall else s.keep c
  | .call opened => if s.completes '}' c then s.closeCall opened else s.keep c

/-- The pieces when no character is left. What is kept then is plain text, in an open call too. -/
def finish (s : Scanner) : List Piece :=
  (.text s.kept.reverse ⟨s.start, s.here⟩ :: s.done).reverse

end Scanner

/-- The pieces of a source text. -/
def Piece.scan (source : List Char) : List Piece :=
  (source.foldl Scanner.step .initial).finish

end Transclude
