/-!
# Sets of characters given by ranges

Unicode properties are published as ranges of code points. A property is held as the list of its
ranges, in increasing order, and a character has the property if one of them holds its code point.

## Main definitions

* `CharRange` — the code points from a first to a last one, both included
* `CharRange.holds` — whether one of several ranges holds a character

## Main results

* `of_toNat_mem` — a property of characters can be checked at their code points
-/

namespace Transclude

/-- The code points from the first component to the second, both included. -/
abbrev CharRange := Nat × Nat

namespace CharRange

/-- Whether the code point of `c` lies in the range. -/
def contains (r : CharRange) (c : Char) : Bool :=
  r.1 ≤ c.toNat && c.toNat ≤ r.2

/-- Whether one of the ranges contains `c`. -/
def holds (ranges : List CharRange) (c : Char) : Bool :=
  ranges.any (contains · c)

end CharRange

/-- A character has a property that all characters with certain code points have, if its code point
is among them. -/
theorem of_toNat_mem {codes : List Nat} {c : Char} (hc : c.toNat ∈ codes) {P : Char → Prop}
    (h : ∀ n ∈ codes, P (Char.ofNat n)) : P c := by
  have hproperty := h c.toNat hc
  rwa [Char.ofNat_toNat] at hproperty

end Transclude
