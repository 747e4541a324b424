import Transclude.Error.Report
import Transclude.Proofs.Lines
import Transclude.Proofs.Splitting.Misspelling

/-!
# How misspelled calls are shown

The report of a misspelled call shows the line on which the call begins and marks the call there,
from its column on and as far as it goes on that line. The line is told by its number among those
that line feeds end, but looked up among those that are displayed. So the report shows the line that
it tells if only plain lines stand in front of it and it is plain itself, and it need not do so
otherwise.

## Main definitions

* `CompilationError.ShowsRightly` — a report shows the line where a span starts, and marks the span

## Main results

* `Span.underlineLength_behind` — how far a span is underlined
* `Span.length_beneath` — the first mark stands under the column where a span starts
* `Document.showsRightly_of_parse` — a misspelled call is shown rightly behind plain lines
* `Document.not_showsRightly_formFeed` — and not behind a line with a form feed
-/

namespace Transclude

/-- The report of an error shows rightly where a span of a source starts: below the number of the
line and the column, the line itself, but that a carriage return at its end may be left out, and
under the span on this line a mark for each of its characters, save such a carriage return. The
first mark stands under the column: as far in as the column is behind the beginning of the line. -/
def CompilationError.ShowsRightly (error : CompilationError) (origin : Path) (source : List Char)
    (span : Span) : Prop :=
  ∃ line shown, (sourceLines source)[(span.start.line - 1).toNat]? = some line ∧
    (shown = line ∨ line = shown ++ ['\r']) ∧
    let gutter := repeated ((toString span.start.line).length + 1) ' '
    let indent := repeated (span.start.column - 1).toNat ' '
    let marks := repeated (withoutReturn (firstLine (span.slice source))).length '^'
    error.report = s!"error: {error.message}\n" ++
        s!"{gutter}--> {origin.text}:{span.start.line}:{span.start.column}\n" ++
        s!"{gutter}|\n{span.start.line} | {String.ofList shown}\n{gutter}| {indent}{marks}" ∧
      (s!"{gutter}| {indent}").length =
        (s!"{span.start.line} | ").length + (span.start.column - 1).toNat

variable {source : String} {origin : Path} {before body rest : List Char} {span : Span}
variable {error : CompilationError}

@[simp] theorem length_repeated (n : Nat) (c : Char) : (repeated n c).length = n := by
  simp [repeated]

theorem Span.start_behind (before written : List Char) :
    (Span.behind before written).start =
      ⟨before.count '\n' + 1, (lastLine before).length + 1, before.length⟩ :=
  Position.origin_after_eq_lastLine before

theorem Span.stop_behind (before written : List Char) :
    (Span.behind before written).stop =
      ⟨(before ++ written).count '\n' + 1, (lastLine (before ++ written)).length + 1,
        (before ++ written).length⟩ :=
  Position.origin_after_eq_lastLine (before ++ written)

/-- What is written behind a text is underlined as far as it goes on the line where it begins, if it
is displayed there at all and no carriage return at its end is left out. -/
theorem Span.underlineLength_behind {written : List Char}
    (hne : withoutReturn (firstLine written) ≠ []) (hend : withoutReturn written = written)
    (before rest : List Char) :
    (Span.behind before written).underlineLength
        (String.ofList (withoutReturn (lastLine before ++ firstLine (written ++ rest)))) =
      (withoutReturn (firstLine written)).length := by
  have hpos : 0 < (withoutReturn (firstLine written)).length := List.length_pos_iff.mpr hne
  rw [underlineLength, start_behind, stop_behind, List.count_append, lastLine_append,
    firstLine_append]
  dsimp only
  by_cases hmem : '\n' ∈ written
  · -- The marks go to the end of the line that is displayed.
    have hcount : 0 < written.count '\n' := List.count_pos_iff.mpr hmem
    have hline : firstLine written ≠ [] := by
      intro h
      simp [h, withoutReturn] at hne
    rw [if_neg (by omega), if_pos hmem, withoutReturn_append hline, String.length_ofList,
      List.length_append]
    omega
  · -- The columns tell how long it is.
    have hcount : written.count '\n' = 0 := List.count_eq_zero.mpr hmem
    rw [firstLine_eq_self hmem, hend] at hpos ⊢
    rw [if_pos (by omega), if_neg hmem, List.length_append]
    omega

theorem withoutReturn_firstLine_braced_ne_nil (body : List Char) :
    withoutReturn (firstLine (braced body)) ≠ [] := by
  have hline : firstLine (braced body) = ['{'] ++ '{' :: firstLine (body ++ ['}', '}']) := rfl
  rw [hline, withoutReturn_append (List.cons_ne_nil _ _)]
  exact List.cons_ne_nil _ _

theorem withoutReturn_braced (body : List Char) : withoutReturn (braced body) = braced body := by
  have heq : braced body = ('{' :: '{' :: (body ++ ['}'])) ++ ['}'] := by simp [braced]
  rw [heq, withoutReturn, List.getLast?_concat, if_neg (by decide)]

/-- Behind plain lines the line where a call begins is displayed under its number. -/
theorem displayLine?_behind (hsource : source.toList = before ++ braced body ++ rest)
    (hplain : ∀ line ∈ (sourceLines source.toList).take (before.count '\n' + 1),
      IsPlainLine line) :
    displayLine? source (Span.behind before (braced body)).start.line = some (String.ofList
      (withoutReturn (lastLine before ++ firstLine (braced body ++ rest)))) := by
  have hshown := @getElem?_displayLinesFrom_append before (braced body ++ rest)
  rw [← List.append_assoc, ← hsource] at hshown
  rw [displayLine?, Span.start_behind, if_pos (by dsimp only; omega), displayLines,
    List.getElem?_map]
  simp [hshown hplain (by simp [firstLine, braced])]

/-- A text is written as it is. -/
theorem toString_eq_self (s : String) : toString s = s := rfl

/-- What stands in front of the first mark is as long as what stands in front of the column in the
displayed line. -/
theorem Span.length_beneath (span : Span) :
    let gutter := repeated ((toString span.start.line).length + 1) ' '
    let indent := repeated (span.start.column - 1).toNat ' '
    (s!"{gutter}| {indent}").length =
      (s!"{span.start.line} | ").length + (span.start.column - 1).toNat := by
  simp only [String.length_append, length_repeated, toString_eq_self]
  rfl

/-- A misspelled call is reported by its fault and its location alone. -/
theorem SpellingFault.report_locatedAt (fault : SpellingFault) (location : Location) :
    (fault.locatedAt location).report = s!"error: {fault.message}\n" ++ location.report := by
  have hreport : (fault.locatedAt location).report =
      s!"error: {fault.message}" ++ ("\n" ++ location.report ++ "") := rfl
  rw [hreport]
  simp only [toString_eq_self, String.append_assoc, String.append_empty]

/-- Behind plain lines the report of a misspelled call shows the line where it begins, and marks the
call there. -/
theorem SpellingFault.showsRightly_locatedAt (fault : SpellingFault) (origin : Path)
    (hsource : source.toList = before ++ braced body ++ rest)
    (hplain : ∀ line ∈ (sourceLines source.toList).take (before.count '\n' + 1),
      IsPlainLine line) :
    (fault.locatedAt ⟨origin, some (Span.behind before (braced body)), source⟩).ShowsRightly origin
      source.toList (Span.behind before (braced body)) := by
  have hslice : (Span.behind before (braced body)).slice source.toList = braced body :=
    (Span.Holds.of_eq rest hsource).slice_eq
  have hshown := displayLine?_behind hsource hplain
  have hmarks := Span.underlineLength_behind (withoutReturn_firstLine_braced_ne_nil body)
    (withoutReturn_braced body) before rest
  refine ⟨lastLine before ++ firstLine (braced body ++ rest), _, ?_, eq_withoutReturn_or _, ?_,
    Span.length_beneath _⟩
  · rw [Span.start_behind, hsource, List.append_assoc]
    simpa using getElem?_sourceLines before (braced body ++ rest)
  · -- The report is this text by definition, once the line and the number of marks are known.
    rw [report_locatedAt, Location.report]
    dsimp only
    rw [Span.report, hshown]
    dsimp only
    rw [hmarks, hslice]
    simp only [placeText, toString_eq_self, String.append_assoc]
    rfl

/-- **A misspelled call is shown rightly behind plain lines.** The error of a source that cannot be
read is located at its first misspelled call; and if the line where this call begins and all lines
in front of it are plain, the report shows this line and marks the call on it. -/
theorem Document.showsRightly_of_parse
    (h : Document.parse source origin = .error (.reported error)) :
    ∃ before body fault,
      (Splitting.leftmost source.toList).Misspells before body (.reported fault) ∧
      error.trace.location = some ⟨origin, some (Span.behind before (braced body)), source⟩ ∧
      ((∀ line ∈ (sourceLines source.toList).take (before.count '\n' + 1), IsPlainLine line) →
        error.ShowsRightly origin source.toList (Span.behind before (braced body))) := by
  obtain ⟨before, body, fault, hmisspells, hfailure⟩ := Document.parse_eq_error_iff.mp h
  cases fault with
  | aborted abort => cases hfailure
  | reported fault =>
    cases hfailure
    obtain ⟨rest, hsource⟩ := hmisspells.exists_source_eq
    rw [Splitting.source_leftmost] at hsource
    exact ⟨before, body, fault, hmisspells, rfl, fault.showsRightly_locatedAt origin hsource⟩

/-- A source with carriage returns, in which a call goes on on a third line. -/
def brokenCall : String :=
  "a\r\n \x7b\x7bf(\r\nx)\x7d\x7d\r\n"

/-- What is wrong with the call. -/
def brokenCallError : CompilationError :=
  SpellingFault.locatedAt (.invalidInteger "x")
    ⟨⟨.relative, ["a.md"]⟩, some ⟨⟨2, 2, 4⟩, ⟨3, 5, 14⟩⟩, brokenCall⟩

theorem parse_brokenCall :
    Document.parse brokenCall ⟨.relative, ["a.md"]⟩ = .error (.reported brokenCallError) := by
  decide +kernel

/-- Four marks stand under the call, and the carriage return is not displayed. -/
theorem Document.showsRightly_of_parse_brokenCall :
    Document.parse brokenCall ⟨.relative, ["a.md"]⟩ = .error (.reported brokenCallError) ∧
      (∀ line ∈ (sourceLines brokenCall.toList).take 2, IsPlainLine line) ∧
      brokenCallError.ShowsRightly ⟨.relative, ["a.md"]⟩ brokenCall.toList
        ⟨⟨2, 2, 4⟩, ⟨3, 5, 14⟩⟩ := by
  have hplain : ∀ line ∈ (sourceLines brokenCall.toList).take 2, IsPlainLine line := by
    decide +kernel
  obtain ⟨before, body, _, -, hlocation, hshows⟩ := showsRightly_of_parse parse_brokenCall
  have hspan : Span.behind before (braced body) = ⟨⟨2, 2, 4⟩, ⟨3, 5, 14⟩⟩ := by
    simpa [brokenCallError, SpellingFault.locatedAt, CompilationError.locate,
      CompilationError.ofFault, CompilationError.trace, CompilationError.withTrace, Trace.unknown,
      eq_comm] using hlocation
  have hcount : before.count '\n' + 1 = 2 := by
    have hline := congrArg (·.start.line) hspan
    simp only [Span.start_behind] at hline
    omega
  rw [hspan, hcount] at hshows
  exact ⟨parse_brokenCall, hplain, hshows hplain⟩

example : brokenCallError.report =
    "error: invalid integer literal: 'x'\n  --> a.md:2:2\n  |\n2 |  \x7b\x7bf(\n  |  ^^^^" := by
  decide +kernel

/-- A source with a form feed in front of its second line. -/
def formFeed : String :=
  "a\x0cb\n\x7b\x7bf(x)\x7d\x7d"

/-- What is wrong with the call on the second line. -/
def formFeedError : CompilationError :=
  SpellingFault.locatedAt (.invalidInteger "x")
    ⟨⟨.relative, ["a.md"]⟩, some ⟨⟨2, 1, 4⟩, ⟨2, 9, 12⟩⟩, formFeed⟩

/-- Behind a form feed another line is shown than the one that the call is on. -/
theorem Document.not_showsRightly_formFeed :
    Document.parse formFeed ⟨.relative, ["a.md"]⟩ = .error (.reported formFeedError) ∧
      formFeedError.trace.location =
        some ⟨⟨.relative, ["a.md"]⟩, some ⟨⟨2, 1, 4⟩, ⟨2, 9, 12⟩⟩, formFeed⟩ ∧
      ¬ formFeedError.ShowsRightly ⟨.relative, ["a.md"]⟩ formFeed.toList
        ⟨⟨2, 1, 4⟩, ⟨2, 9, 12⟩⟩ := by
  refine ⟨by decide +kernel, rfl, ?_⟩
  rintro ⟨line, shown, hline, hshown, hreport, -⟩
  have hcall : (sourceLines formFeed.toList)[1]? = some "\x7b\x7bf(x)\x7d\x7d".toList := by
    decide +kernel
  cases hline.symm.trans hcall
  obtain rfl | hreturn := hshown
  · revert hreport
    decide +kernel
  · have hlast := congrArg List.getLast? hreturn
    rw [List.getLast?_concat] at hlast
    revert hlast
    decide +kernel

end Transclude
