/-!
# Blanks

The characters that separate words: those of Unicode's bidirectional classes for white space and
separators (`WS`, `B`, `S`) and every space separator. The four information separators of ASCII
are among them.

## Main definitions

* `isBlank` — whether a character is a blank
* `stripBlanks` — a text without the blanks at its two ends

## Main results

* `isBlank_of_isWhitespace` — what core calls whitespace is blank
-/

namespace Transclude

/-- Whether a character is a blank. -/
def isBlank (c : Char) : Bool :=
  let n := c.toNat
  (9 ≤ n && n ≤ 13) || (0x1C ≤ n && n ≤ 0x20) || n = 0x85 || n = 0xA0 || n = 0x1680 ||
    (0x2000 ≤ n && n ≤ 0x200A) || n = 0x2028 || n = 0x2029 || n = 0x202F || n = 0x205F ||
    n = 0x3000

theorem isBlank_of_isWhitespace {c : Char} (h : c.isWhitespace = true) : isBlank c = true := by
  simp only [Char.isWhitespace, Bool.or_eq_true, decide_eq_true_eq] at h
  rcases h with ((rfl | rfl) | rfl) | rfl <;> rfl

/-- The characters without those in front that satisfy `p` and those at the end that do. -/
def stripWhere (p : Char → Bool) (cs : List Char) : List Char :=
  ((cs.dropWhile p).reverse.dropWhile p).reverse

/-- The characters without the blanks at the two ends. -/
def stripBlanks (cs : List Char) : List Char :=
  stripWhere isBlank cs

end Transclude
