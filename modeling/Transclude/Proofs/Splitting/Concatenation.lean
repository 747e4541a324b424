import Transclude.Proofs.Splitting.Basic

/-!
# Splittings of two texts side by side

Where two texts meet, the last plain text of the first and the first plain text of the second become
one. Nothing else changes, as long as the first text leaves no call open and no pair of opening
braces is made where they meet.

## Main definitions

* `Splitting.prepend` — a splitting with more plain text in front
* `Splitting.append` — two splittings side by side
* `Splitting.Apart` — no pair of opening braces is made where two texts meet

## Main results

* `Splitting.leftmost_append` — two texts side by side are cut like each of them
-/

namespace Transclude.Splitting

/-- The splitting with plain text in front of its first text. -/
def prepend (front : List Char) : Splitting → Splitting
  | plain text => plain (front ++ text)
  | unclosed text rest => unclosed (front ++ text) rest
  | call text body rest => call (front ++ text) body rest

/-- Two splittings side by side. What follows a call that is left open is taken to be in the
call. -/
def append : Splitting → Splitting → Splitting
  | plain text, s => s.prepend text
  | unclosed text rest, s => unclosed text (rest ++ s.source)
  | call text body rest, s => call text body (rest.append s)

variable {front behind text rest : List Char}

/-- Between the two texts, no pair of opening braces is made. -/
def Apart (front behind : List Char) : Prop :=
  ¬ (front.getLast? = some '{' ∧ behind.head? = some '{')

instance (front behind : List Char) : Decidable (Apart front behind) :=
  inferInstanceAs (Decidable (¬ (front.getLast? = some '{' ∧ behind.head? = some '{')))

theorem Apart.of_append (h : Apart (text ++ rest) behind) : Apart rest behind := by
  rintro ⟨hlast, hfirst⟩
  exact h ⟨by rw [List.getLast?_append, hlast, Option.some_or], hfirst⟩

theorem Apart.not_hasPair (h : Apart front behind) (hfront : ¬ HasPair '{' front)
    (hbehind : ¬ HasPair '{' behind) : ¬ HasPair '{' (front ++ behind) := by
  rw [hasPair_append_iff]
  rintro (hpair | hpair | hmeet)
  · exact hfront hpair
  · exact hbehind hpair
  · exact h hmeet

/-- Up to the braces of its first call, a text is as it is with the braces. -/
theorem Apart.of_open (h : Apart front (text ++ '{' :: rest)) : Apart front (text ++ ['{']) := by
  cases text <;> exact h

/-- Text without a pair goes to the first text behind it. -/
theorem leftmost_prepend (hfront : ¬ HasPair '{' front) (h : Apart front behind) :
    leftmost (front ++ behind) = (leftmost behind).prepend front := by
  induction behind using induction_leftmost with
  | plain behind hbehind =>
    rw [leftmost_plain hbehind, leftmost_plain (h.not_hasPair hfront hbehind), prepend]
  | unclosed text rest htext hrest =>
    have hopen := h.of_open.not_hasPair hfront htext
    rw [← List.append_assoc] at hopen ⊢
    rw [leftmost_unclosed htext hrest, leftmost_unclosed hopen hrest, prepend]
  | call text body rest htext hbody _ =>
    have hopen := h.of_open.not_hasPair hfront htext
    rw [← List.append_assoc] at hopen ⊢
    rw [leftmost_call htext hbody, leftmost_call hopen hbody, prepend]

/-- **Two texts side by side are cut like each of them**, if the first one leaves no call open and
no pair of opening braces is made where they meet. -/
theorem leftmost_append (hclosed : (leftmost front).isUnclosed = false) (h : Apart front behind) :
    leftmost (front ++ behind) = (leftmost front).append (leftmost behind) := by
  induction front using induction_leftmost with
  | plain front hfront =>
    rw [leftmost_prepend hfront h, leftmost_plain hfront, append]
  | unclosed text rest htext hrest =>
    rw [leftmost_unclosed htext hrest] at hclosed
    contradiction
  | call text body rest htext hbody ih =>
    -- What the second text meets is the end of what follows the first call.
    have happart : Apart rest behind := by
      have hfront : Apart ((text ++ '{' :: '{' :: (body ++ ['}', '}'])) ++ rest) behind := by
        simpa using h
      exact hfront.of_append
    have hsource : text ++ '{' :: '{' :: (body ++ '}' :: '}' :: rest) ++ behind =
        text ++ '{' :: '{' :: (body ++ '}' :: '}' :: (rest ++ behind)) := by simp
    rw [leftmost_call htext hbody] at hclosed ⊢
    rw [hsource, leftmost_call htext hbody, ih hclosed happart, append]

end Transclude.Splitting
