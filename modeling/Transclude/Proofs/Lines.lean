import Transclude.Proofs.Place
import Transclude.Text.Lines

/-!
# Lines of a source and lines for display

Positions count the lines of a source by its line feeds. A reader is shown a line of the text as it
is cut for display, which is at other line boundaries too. The two agree on a line if neither it nor
a line in front of it holds a boundary of its own, save a carriage return at its end, which is taken
for a part of the line end and is not displayed.

## Main definitions

* `sourceLines` — the lines of a source
* `firstLine` — the first one of them
* `withoutReturn` — a line without the carriage return at its end
* `IsPlainLine` — a line that is displayed as one

## Main results

* `sourceLines_append` — the last line of a text goes on in the first line of the text behind it
* `displayLinesFrom_plainLine` — a plain line is displayed as one line
* `getElem?_displayLinesFrom` — behind plain lines a line is displayed under its own number
-/

namespace Transclude

/-- The lines of a source: what stands between its line feeds. -/
def sourceLines (cs : List Char) : List (List Char) :=
  cs.splitOn '\n'

/-- The first line of a source: what stands in front of its first line feed. -/
def firstLine (cs : List Char) : List Char :=
  cs.takeWhile (· ≠ '\n')

/-- The line without the carriage return at its end, if there is one. -/
def withoutReturn (line : List Char) : List Char :=
  if line.getLast? = some '\r' then line.dropLast else line

/-- Nothing in the line but a carriage return at its end is a line boundary. -/
def IsPlainLine (line : List Char) : Prop :=
  ∀ c ∈ withoutReturn line, isLineBreak c = false

variable {cs read line rest before behind : List Char} {lines : List (List Char)} {n : Nat}

instance (line : List Char) : Decidable (IsPlainLine line) :=
  List.decidableBAll (fun c => isLineBreak c = false) (withoutReturn line)

/-- There is a carriage return at the end of a line, or there is nothing to leave out. -/
theorem eq_withoutReturn_or (line : List Char) :
    withoutReturn line = line ∨ line = withoutReturn line ++ ['\r'] := by
  unfold withoutReturn
  split
  · rename_i hlast
    obtain ⟨front, rfl⟩ := List.getLast?_eq_some_iff.mp hlast
    exact .inr (by rw [List.dropLast_concat])
  · exact .inl rfl

theorem withoutReturn_append (h : line ≠ []) :
    withoutReturn (before ++ line) = before ++ withoutReturn line := by
  obtain ⟨front, c, rfl⟩ := List.eq_nil_or_concat line |>.resolve_left h
  rw [List.concat_eq_append, withoutReturn, withoutReturn, ← List.append_assoc,
    List.getLast?_concat, List.getLast?_concat, List.dropLast_concat, List.dropLast_concat]
  split
  · rfl
  · rw [List.append_assoc]

theorem firstLine_cons (c : Char) (cs : List Char) :
    firstLine (c :: cs) = if c = '\n' then [] else c :: firstLine cs := by
  by_cases hc : c = '\n' <;> simp [firstLine, hc]

/-- The first line ends at the first line feed, and goes on behind a text without one. -/
theorem firstLine_append (cs rest : List Char) :
    firstLine (cs ++ rest) = if '\n' ∈ cs then firstLine cs else cs ++ firstLine rest := by
  induction cs with
  | nil => rfl
  | cons c cs ih =>
    rw [List.cons_append, firstLine_cons, firstLine_cons, ih]
    by_cases hc : c = '\n'
    · simp [hc]
    · by_cases hmem : '\n' ∈ cs <;> simp [hc, hmem, Ne.symm hc]

theorem firstLine_eq_self (h : '\n' ∉ cs) : firstLine cs = cs := by
  simpa [h, firstLine] using firstLine_append cs []

theorem sourceLines_cons_newline (cs : List Char) :
    sourceLines ('\n' :: cs) = [] :: sourceLines cs := by
  simp [sourceLines, List.splitOn_cons_eq_if_modifyHead]

theorem sourceLines_cons {c : Char} (h : c ≠ '\n') (cs : List Char) :
    sourceLines (c :: cs) = (sourceLines cs).modifyHead (c :: ·) := by
  simp [sourceLines, List.splitOn_cons_eq_if_modifyHead, h]

/-- A source has a first line. -/
theorem sourceLines_eq_cons (cs : List Char) :
    ∃ rest, sourceLines cs = firstLine cs :: rest := by
  induction cs with
  | nil => exact ⟨[], rfl⟩
  | cons c cs ih =>
    obtain ⟨rest, ih⟩ := ih
    by_cases hc : c = '\n'
    · subst hc
      exact ⟨sourceLines cs, sourceLines_cons_newline cs⟩
    · refine ⟨rest, ?_⟩
      rw [sourceLines_cons hc, ih, List.modifyHead_cons, firstLine_cons, if_neg hc]

/-- The last line of a text goes on in the first line of the text behind it; as many lines as it has
line feeds stand in front. -/
theorem sourceLines_append (before behind : List Char) :
    ∃ inits, inits.length = before.count '\n' ∧
      sourceLines (before ++ behind) =
        inits ++ (sourceLines behind).modifyHead (lastLine before ++ ·) := by
  induction before using List.reverseRecOn generalizing behind with
  | nil =>
    obtain ⟨rest, hbehind⟩ := sourceLines_eq_cons behind
    exact ⟨[], rfl, by simp [hbehind, lastLine]⟩
  | append_singleton before c ih =>
    obtain ⟨inits, hlength, ih⟩ := ih (c :: behind)
    obtain ⟨rest, hbehind⟩ := sourceLines_eq_cons behind
    rw [List.append_assoc, List.singleton_append, ih, lastLine_concat]
    by_cases hc : c = '\n'
    · -- The line feed ends the last line, and the next one begins with the text behind.
      subst hc
      exact ⟨inits ++ [lastLine before], by simp [hlength],
        by simp [sourceLines_cons_newline, hbehind]⟩
    · exact ⟨inits, by simp [hlength, hc], by simp [sourceLines_cons hc, hbehind, hc]⟩

/-- The line on which a text ends and another one begins. -/
theorem getElem?_sourceLines (before behind : List Char) :
    (sourceLines (before ++ behind))[before.count '\n']? =
      some (lastLine before ++ firstLine behind) := by
  obtain ⟨inits, hlength, hlines⟩ := sourceLines_append before behind
  obtain ⟨rest, hbehind⟩ := sourceLines_eq_cons behind
  rw [hlines, ← hlength, List.getElem?_append_right (Nat.le_refl _), Nat.sub_self, hbehind]
  rfl

theorem displayLinesFrom_cons {c : Char} (h : isLineBreak c = false) :
    displayLinesFrom read (c :: rest) = displayLinesFrom (c :: read) rest := by
  rw [displayLinesFrom, h]
  · rfl
  · rintro _ rfl
    exact absurd h (by decide)

/-- Characters that are no line boundaries belong to the line that is being displayed. -/
theorem displayLinesFrom_append (h : ∀ c ∈ cs, isLineBreak c = false) (read rest : List Char) :
    displayLinesFrom read (cs ++ rest) = displayLinesFrom (cs.reverse ++ read) rest := by
  induction cs generalizing read with
  | nil => rfl
  | cons c cs ih =>
    rw [List.forall_mem_cons] at h
    rw [List.cons_append, displayLinesFrom_cons h.1, ih h.2, List.reverse_cons, List.append_assoc,
      List.singleton_append]

/-- A plain line is displayed as one, and the text behind its line feed by itself. -/
theorem displayLinesFrom_plainLine (h : IsPlainLine line) (rest : List Char) :
    displayLinesFrom [] (line ++ '\n' :: rest) =
      withoutReturn line :: displayLinesFrom [] rest := by
  obtain heq | heq := eq_withoutReturn_or line
  · have hread := displayLinesFrom_append h [] ('\n' :: rest)
    rw [heq] at hread ⊢
    simp [hread, displayLinesFrom, isLineBreak]
  · -- The carriage return and the line feed are one boundary.
    have hread := displayLinesFrom_append h [] ('\r' :: '\n' :: rest)
    have hsource : line ++ '\n' :: rest = withoutReturn line ++ '\r' :: '\n' :: rest := by
      conv_lhs => rw [heq]
      simp
    simp [hsource, hread, displayLinesFrom]

/-- The last line is displayed unless it is empty. -/
theorem displayLinesFrom_lastLine (h : IsPlainLine line) (hne : line ≠ []) :
    displayLinesFrom [] line = [withoutReturn line] := by
  obtain heq | heq := eq_withoutReturn_or line
  · have hread := displayLinesFrom_append h [] []
    rw [heq, List.append_nil, List.append_nil] at hread
    simp [hread, heq, displayLinesFrom, hne]
  · have hread := displayLinesFrom_append h [] ['\r']
    rw [← heq, List.append_nil] at hread
    simp [hread, displayLinesFrom, isLineBreak]

/-- Behind plain lines a plain line is displayed under its own number. -/
theorem getElem?_displayLinesFrom (hplain : ∀ line ∈ lines.take (n + 1), IsPlainLine line)
    (hline : lines[n]? = some line) (hne : line ≠ []) :
    (displayLinesFrom [] (['\n'].intercalate lines))[n]? = some (withoutReturn line) := by
  induction lines generalizing n with
  | nil => cases hline
  | cons first others ih =>
    rw [List.take_succ_cons, List.forall_mem_cons] at hplain
    cases n with
    | zero =>
      cases hline
      cases others with
      | nil => simp [displayLinesFrom_lastLine hplain.1 hne]
      | cons second others => simp [displayLinesFrom_plainLine hplain.1]
    | succ n =>
      -- There is a line behind, so a line feed ends the first one.
      cases others with
      | nil => cases hline
      | cons second others =>
        have hshown := ih hplain.2 hline
        simpa [displayLinesFrom_plainLine hplain.1] using hshown

/-- The line of a source where a text ends and another one begins is displayed under its number, if
it is plain and only plain lines stand in front. -/
theorem getElem?_displayLinesFrom_append
    (hplain : ∀ line ∈ (sourceLines (before ++ behind)).take (before.count '\n' + 1),
      IsPlainLine line)
    (hne : lastLine before ++ firstLine behind ≠ []) :
    (displayLinesFrom [] (before ++ behind))[before.count '\n']? =
      some (withoutReturn (lastLine before ++ firstLine behind)) := by
  have hshown := getElem?_displayLinesFrom hplain (getElem?_sourceLines before behind) hne
  rwa [sourceLines, List.intercalate_splitOn] at hshown

end Transclude
