import Transclude.Proofs.Splitting.Basic

/-!
# The scan finds the leftmost splitting

A scan never looks for anything: all it compares is the character it reads with the last one it
has kept. What makes it find the leftmost pairs is an invariant: the characters kept hold no pair
of the brace that the scan is waiting for. Hence the first pair it notices is the leftmost one, and
at every moment the pieces done, together with the leftmost splitting of what is kept and what is
still to be read, are the same.

## Main definitions

* `Scanner.Consistent` — what the positions and the characters kept have to do with each other
* `Scanner.outcome` — the pieces that a scan should come to

## Main results

* `Scanner.Consistent.step`, `Scanner.Consistent.outcome_step` — what one character preserves
* `Scanner.Consistent.outcome_foldl` — what a run preserves
* `Piece.scan_eq_pieces_leftmost` — the scan finds the leftmost splitting
-/

namespace Transclude

open Splitting

/-- The brace of which a scan is waiting for two. -/
def Mode.brace : Mode → Char
  | text => '{'
  | call _ => '}'

namespace Scanner

variable {s : Scanner} {c : Char} {rest : List Char}

/-- The invariant of a scan. -/
structure Consistent (s : Scanner) : Prop where
  here_eq : s.here = s.start.after s.kept.reverse
  /-- The last character kept is the last one read. -/
  previous_eq : s.kept ≠ [] → s.previous = s.start.after s.kept.tail.reverse
  not_hasPair : ¬ HasPair s.mode.brace s.kept.reverse
  /-- What is kept within a call starts behind its braces. -/
  start_eq : ∀ opened, s.mode = .call opened → s.start = opened.after ['{', '{']

/-- The pieces that a scan should come to, if `rest` is still to be read: those that are done, and
those of the leftmost splitting of what is kept and of what is to be read. Within a call, its braces
belong to what is split, and the empty text in front of them is left out. -/
def outcome (s : Scanner) (rest : List Char) : List Piece :=
  s.done.reverse ++
    match s.mode with
    | .text => (leftmost (s.kept.reverse ++ rest)).pieces s.start
    | .call opened => ((leftmost ('{' :: '{' :: (s.kept.reverse ++ rest))).pieces opened).tail

theorem completes_iff {brace : Char} :
    s.completes brace c = true ↔ c = brace ∧ ∃ kept, s.kept = brace :: kept := by
  simp [completes, List.head?_eq_some_iff]

/-- What one character can do to a scan. -/
theorem step_cases (s : Scanner) (c : Char) :
    (∃ kept, s.mode = .text ∧ c = '{' ∧ s.kept = '{' :: kept ∧ s.step c = s.openCall) ∨
    (∃ opened kept, s.mode = .call opened ∧ c = '}' ∧ s.kept = '}' :: kept ∧
      s.step c = s.closeCall opened) ∨
    (¬ s.completes s.mode.brace c ∧ s.step c = s.keep c) := by
  by_cases h : s.completes s.mode.brace c
  · obtain ⟨hc, kept, hkept⟩ := completes_iff.mp h
    cases hmode : s.mode with
    | text =>
      rw [hmode] at h hc hkept
      exact .inl ⟨kept, rfl, hc, hkept, by simp [step, hmode, show s.completes '{' c from h]⟩
    | call opened =>
      rw [hmode] at h hc hkept
      exact .inr (.inl ⟨opened, kept, rfl, hc, hkept,
        by simp [step, hmode, show s.completes '}' c from h]⟩)
  · -- In either mode a character that completes no pair is kept.
    refine .inr (.inr ⟨h, ?_⟩)
    cases hmode : s.mode <;> simp_all [step, Mode.brace]

theorem consistent_initial : initial.Consistent where
  here_eq := rfl
  previous_eq h := absurd rfl h
  not_hasPair := not_hasPair_nil
  start_eq _ h := by cases h

namespace Consistent

/-- A pair that is completed stands where the invariant says. -/
theorem here_advance {kept : List Char} (h : s.Consistent) (hkept : s.kept = c :: kept) :
    s.here.advance c = s.previous.after [c, c] := by
  have hprevious := h.previous_eq (by simp [hkept])
  simp only [h.here_eq, hprevious, hkept, List.reverse_cons, List.tail_cons, Position.after_append,
    Position.after_cons, Position.after_nil]

theorem keep (h : s.Consistent) (hc : ¬ s.completes s.mode.brace c) : (s.keep c).Consistent where
  here_eq := by simp [Scanner.keep, h.here_eq, Position.after_append]
  previous_eq _ := by simp [Scanner.keep, h.here_eq]
  not_hasPair := by
    have habsent := h.not_hasPair
    simp only [Scanner.keep, List.reverse_cons, hasPair_concat_iff, List.getLast?_reverse, not_or]
    exact ⟨by simpa [completes] using hc, habsent⟩
  start_eq := h.start_eq

theorem openCall {kept : List Char} (h : s.Consistent) (hkept : s.kept = '{' :: kept) :
    s.openCall.Consistent where
  here_eq := rfl
  previous_eq h := absurd rfl h
  not_hasPair := not_hasPair_nil
  start_eq opened hopened := by
    obtain rfl : s.previous = opened := by simpa [Scanner.openCall] using hopened
    exact h.here_advance hkept

theorem closeCall (s : Scanner) (opened : Position) : (s.closeCall opened).Consistent where
  here_eq := rfl
  previous_eq h := absurd rfl h
  not_hasPair := not_hasPair_nil
  start_eq _ h := by cases h

/-- A step keeps the invariant. -/
theorem step (h : s.Consistent) (c : Char) : (s.step c).Consistent := by
  obtain ⟨kept, -, -, hkept, hstep⟩ | ⟨opened, kept, -, -, -, hstep⟩ | ⟨hc, hstep⟩ := s.step_cases c
  · exact hstep ▸ h.openCall hkept
  · exact hstep ▸ Consistent.closeCall s opened
  · exact hstep ▸ h.keep hc

theorem outcome_keep (s : Scanner) (c : Char) (rest : List Char) :
    (s.keep c).outcome rest = s.outcome (c :: rest) := by
  simp [outcome, Scanner.keep]

theorem outcome_openCall {kept : List Char} (h : s.Consistent) (hmode : s.mode = .text)
    (hkept : s.kept = '{' :: kept) : s.openCall.outcome rest = s.outcome ('{' :: rest) := by
  have htext : ¬ HasPair '{' (kept.reverse ++ ['{']) := by
    simpa [hmode, hkept, Mode.brace] using h.not_hasPair
  have hprevious : s.previous = s.start.after kept.reverse := by
    simpa [hkept] using h.previous_eq (by simp [hkept])
  simp only [outcome, Scanner.openCall, hmode, hkept, hprevious, List.reverse_cons,
    List.reverse_nil, List.nil_append, List.append_assoc, List.cons_append, List.tail_cons,
    pieces_leftmost_append htext]

theorem outcome_closeCall {opened : Position} {kept : List Char} (h : s.Consistent)
    (hmode : s.mode = .call opened) (hkept : s.kept = '}' :: kept) :
    (s.closeCall opened).outcome rest = s.outcome ('}' :: rest) := by
  have hbody : ¬ HasPair '}' (kept.reverse ++ ['}']) := by
    simpa [hmode, hkept, Mode.brace] using h.not_hasPair
  have hbehind : s.here.advance '}' =
      opened.after ('{' :: '{' :: (kept.reverse ++ ['}', '}'])) := by
    have hstart := h.start_eq opened hmode
    simp [h.here_eq, hstart, hkept, Position.after_append]
  simp [outcome, Scanner.closeCall, hmode, hkept, leftmost_call_nil hbody, pieces, hbehind]

/-- A step keeps the outcome. -/
theorem outcome_step (h : s.Consistent) (c : Char) (rest : List Char) :
    (s.step c).outcome rest = s.outcome (c :: rest) := by
  obtain ⟨kept, hmode, rfl, hkept, hstep⟩ | ⟨opened, kept, hmode, rfl, hkept, hstep⟩ | ⟨-, hstep⟩ :=
    s.step_cases c
  · rw [hstep, h.outcome_openCall hmode hkept]
  · rw [hstep, h.outcome_closeCall hmode hkept]
  · rw [hstep, outcome_keep]

/-- A run keeps the invariant and the outcome. -/
theorem outcome_foldl (h : s.Consistent) (cs : List Char) :
    (cs.foldl Scanner.step s).Consistent ∧ (cs.foldl Scanner.step s).outcome [] = s.outcome cs := by
  induction cs generalizing s with
  | nil => exact ⟨h, rfl⟩
  | cons c cs ih =>
    obtain ⟨hconsistent, houtcome⟩ := ih (h.step c)
    exact ⟨hconsistent, houtcome.trans (h.outcome_step c cs)⟩

/-- When nothing is left to read, a scan gives its outcome. -/
theorem finish_eq_outcome (h : s.Consistent) : s.finish = s.outcome [] := by
  have habsent := h.not_hasPair
  cases hmode : s.mode with
  | text =>
    -- What is kept holds no pair that opens a call, so it is plain.
    rw [hmode, Mode.brace] at habsent
    simp [finish, outcome, hmode, leftmost_plain habsent, pieces, h.here_eq]
  | call opened =>
    -- What is kept behind the opening braces holds no pair that closes the call.
    rw [hmode, Mode.brace] at habsent
    simp [finish, outcome, hmode, leftmost_unclosed_nil habsent, pieces, h.here_eq,
      h.start_eq opened hmode]

end Consistent

end Scanner

/-- The scan finds the leftmost splitting, and every piece at its place. -/
theorem Piece.scan_eq_pieces_leftmost (source : List Char) :
    Piece.scan source = (leftmost source).pieces .origin := by
  obtain ⟨hconsistent, houtcome⟩ := Scanner.consistent_initial.outcome_foldl source
  rw [Piece.scan, hconsistent.finish_eq_outcome, houtcome]
  simp [Scanner.outcome, Scanner.initial]

end Transclude
