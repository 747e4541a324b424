/-!
# Positions in a source text

A position is a place between two characters of a text. Lines and columns count from one and
offsets from zero, and all three count characters. A line is ended by a line feed and by nothing
else. The three numbers are integers, so that places outside of every text can be told as well.

## Main definitions

* `Position.advance` — the position behind one more character
* `Position.after` — the position behind a run of characters
* `Span` — the stretch of text between two positions

## Main results

* `Position.after_append` — advancing over a concatenation is advancing twice
* `Position.offset_after` — the offset grows by the number of characters
-/

namespace Transclude

/-- A place in a text. -/
structure Position where
  line : Int
  column : Int
  offset : Int
  deriving DecidableEq

/-- The stretch of a text between two of its positions. -/
structure Span where
  start : Position
  stop : Position
  deriving DecidableEq

namespace Position

/-- The position before the first character. -/
def origin : Position := ⟨1, 1, 0⟩

/-- The position behind `c`, when `c` stands at `p`. -/
def advance (p : Position) (c : Char) : Position :=
  if c = '\n' then ⟨p.line + 1, 1, p.offset + 1⟩ else ⟨p.line, p.column + 1, p.offset + 1⟩

/-- The position behind the characters `cs`, when they stand at `p`. -/
def after (p : Position) (cs : List Char) : Position :=
  cs.foldl advance p

@[simp] theorem after_nil (p : Position) : p.after [] = p := rfl

@[simp] theorem after_cons (p : Position) (c : Char) (cs : List Char) :
    p.after (c :: cs) = (p.advance c).after cs := rfl

theorem after_append (p : Position) (cs ds : List Char) :
    p.after (cs ++ ds) = (p.after cs).after ds := by
  simp [after]

@[simp] theorem offset_advance (p : Position) (c : Char) :
    (p.advance c).offset = p.offset + 1 := by
  unfold advance
  split <;> rfl

theorem offset_after (p : Position) (cs : List Char) :
    (p.after cs).offset = p.offset + cs.length := by
  induction cs generalizing p with
  | nil => simp
  | cons c cs ih => simp [ih]; omega

end Position

end Transclude
