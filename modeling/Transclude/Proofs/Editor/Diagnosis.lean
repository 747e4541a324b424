import Transclude.Editor.Diagnostic
import Transclude.Proofs.Expansion.Attribution
import Transclude.Proofs.Expansion.Rewriting
import Transclude.Proofs.Splitting.Misspelling
import Transclude.Proofs.Splitting.Tiling

/-!
# Diagnoses point at calls of the open document

Whenever a diagnosis is published, it agrees with compilation: it is empty exactly when the open
document can be read and expanded with calls nested no deeper than the editor allows. Otherwise it
is one diagnostic, and its range covers a call of the open document, braces included: the first call
that is misspelled, or else the first one whose expansion fails. An error that arises within
included files has recorded the calls that it escaped from, and the last of them is that call.

## Main definitions

* `EditorPosition.behind` — the place behind some characters of a text, as editors count
* `EditorRange.Covers` — a range covers what is written at a place in a text

## Main results

* `EditorRange.covers_of_ofSpan` — the range made of a span covers what stands at the span
* `Expander.Raises.exists_outermost` — a reported error has the span of the first call that fails
* `FileTree.diagnose_agrees_with_expand` — what a diagnosis says, and where it points
-/

namespace Transclude

open Splitting

/-- The place behind the characters `passed` of a text: as many lines down as there are line feeds
among them, and as many characters in as stand behind the last line feed. -/
def EditorPosition.behind (passed : List Char) : EditorPosition :=
  ⟨passed.count '\n', (passed.reverse.takeWhile (· ≠ '\n')).length⟩

/-- The range covers what is written in a text behind `before`. -/
def EditorRange.Covers (text before written : List Char) (range : EditorRange) : Prop :=
  before ++ written <+: text ∧ range = ⟨.behind before, .behind (before ++ written)⟩

/-- Positions count from one what editors count from zero. -/
theorem Position.origin_after_eq (passed : List Char) :
    (origin.after passed).line = (EditorPosition.behind passed).line + 1 ∧
      (origin.after passed).column = (EditorPosition.behind passed).character + 1 := by
  rw [origin_after_eq_lastLine, lastLine, List.length_reverse]
  exact ⟨rfl, rfl⟩

namespace EditorRange

theorem eq_of_fromZero {coordinate : Coordinate} {n value : Int}
    (h : coordinate.fromZero n = .ok value) : value = n - 1 := by
  unfold Coordinate.fromZero at h
  simp only at h
  split at h
  · exact (Except.ok.inj h).symm
  · cases h

theorem exists_outOfRange_of_fromZero {coordinate : Coordinate} {n : Int} {abort : Abort}
    (h : coordinate.fromZero n = .error abort) : ∃ value, abort = .outOfRange coordinate value := by
  unfold Coordinate.fromZero at h
  simp only at h
  split at h
  · cases h
  · exact ⟨_, (Except.error.inj h).symm⟩

theorem exists_outOfRange_of_ofPosition {p : Position} {abort : Abort}
    (h : EditorPosition.ofPosition p = .error abort) :
    ∃ coordinate value, abort = .outOfRange coordinate value := by
  obtain hline | ⟨line, -, h⟩ := bind_eq_error_iff.mp h
  · exact ⟨_, exists_outOfRange_of_fromZero hline⟩
  obtain hcharacter | ⟨character, -, h⟩ := bind_eq_error_iff.mp h
  · exact ⟨_, exists_outOfRange_of_fromZero hcharacter⟩
  · cases h

/-- A span has no range only if it reaches beyond what editors count. -/
theorem exists_outOfRange_of_ofSpan {span : Span} {abort : Abort}
    (h : EditorRange.ofSpan span = .error abort) :
    ∃ coordinate value, abort = .outOfRange coordinate value := by
  obtain hstart | ⟨start, -, h⟩ := bind_eq_error_iff.mp h
  · exact exists_outOfRange_of_ofPosition hstart
  obtain hstop | ⟨stop, -, h⟩ := bind_eq_error_iff.mp h
  · exact exists_outOfRange_of_ofPosition hstop
  · cases h

theorem eq_behind_of_ofPosition {passed : List Char} {position : EditorPosition}
    (h : EditorPosition.ofPosition (Position.origin.after passed) = .ok position) :
    position = .behind passed := by
  obtain ⟨line, hline, h⟩ := bind_eq_ok_iff.mp h
  obtain ⟨character, hcharacter, h⟩ := bind_eq_ok_iff.mp h
  obtain rfl : ⟨line, character⟩ = position := Except.ok.inj h
  obtain ⟨horigin, horigin'⟩ := Position.origin_after_eq passed
  have hline := eq_of_fromZero hline
  have hcharacter := eq_of_fromZero hcharacter
  rw [horigin, Int.add_sub_cancel] at hline
  rw [horigin', Int.add_sub_cancel] at hcharacter
  rw [hline, hcharacter]

/-- The range made of the place of what is written in a text covers it. -/
theorem covers_of_ofSpan {text before written : List Char} {range : EditorRange}
    (hwritten : before ++ written <+: text)
    (h : EditorRange.ofSpan (Span.behind before written) = .ok range) :
    range.Covers text before written := by
  obtain ⟨start, hstart, h⟩ := bind_eq_ok_iff.mp h
  obtain ⟨stop, hstop, h⟩ := bind_eq_ok_iff.mp h
  obtain rfl : ⟨start, stop⟩ = range := Except.ok.inj h
  rw [eq_behind_of_ofPosition hstart, eq_behind_of_ofPosition hstop]
  exact ⟨hwritten, rfl⟩

end EditorRange

namespace Diagnostic

variable {severity : Severity} {error : CompilationError} {span : Span} {diagnostic : Diagnostic}

/-- A diagnostic has the severity it is made with, and the range of the span that its error
concerns. -/
theorem eq_of_ofError (h : Diagnostic.ofError severity error = .ok diagnostic)
    (hspan : error.outermostSpan? = some span) :
    diagnostic.severity = severity ∧ EditorRange.ofSpan span = .ok diagnostic.range := by
  obtain ⟨range, hrange, h⟩ := bind_eq_ok_iff.mp h
  rw [hspan] at hrange
  obtain rfl := Except.ok.inj h
  exact ⟨rfl, hrange⟩

/-- An error becomes no diagnostic only if its span reaches beyond what editors count. -/
theorem exists_outOfRange_of_ofError {abort : Abort}
    (h : Diagnostic.ofError severity error = .error abort) :
    ∃ coordinate value, abort = .outOfRange coordinate value := by
  obtain hrange | ⟨range, -, h⟩ := bind_eq_error_iff.mp h
  · cases hspan : error.outermostSpan? with
    | none => simp [hspan] at hrange
    | some span =>
      rw [hspan] at hrange
      exact EditorRange.exists_outOfRange_of_ofSpan hrange
  · cases h

/-- A failure becomes one diagnostic if it is reported, and nothing is published otherwise. -/
theorem exists_of_ofFailure {failure : Failure CompilationError} {diagnostics : List Diagnostic}
    (h : Diagnostic.ofFailure severity failure = .ok diagnostics) :
    ∃ error diagnostic, failure = .reported error ∧ diagnostics = [diagnostic] ∧
      Diagnostic.ofError severity error = .ok diagnostic := by
  cases failure with
  | aborted abort => cases h
  | reported error =>
    obtain ⟨diagnostic, hdiagnostic, h⟩ := bind_eq_ok_iff.mp h
    exact ⟨error, diagnostic, rfl, (Except.ok.inj h).symm, hdiagnostic⟩

end Diagnostic

/-- A call of a document stands in its source, with what it spells between braces. -/
theorem Document.exists_body_of_call {source : String} {origin : Path} {d : Document} {c : Call}
    (h : Document.parse source origin = .ok d) (hmem : .call c ∈ d.nodes) :
    ∃ before body, before ++ braced body <+: source.toList ∧
      c.span = some (Span.behind before (braced body)) ∧
      Invocation.ofBody body = .ok ⟨c.function, c.arguments⟩ := by
  obtain ⟨span, before, _, hspan, hholds, body, rfl, hbody⟩ := Document.exists_holds_of_mem h hmem
  exact ⟨before, body, hholds.1, hspan.trans (congrArg some hholds.2), hbody⟩

namespace Expander

variable {e : Expander} {limit : Option Int} {capacity : Nat} {d : Document} {files : FileTree}
variable {error : CompilationError} {around : List Call} {c : Call} {raw : CompilationError}

/-- An error that arises without a location concerns the outermost call that is being expanded. -/
theorem outermostSpan?_escaped (hraw : raw.trace = .unknown) {first : Call}
    (hfirst : (around ++ [c]).head? = some first) :
    ((around ++ [c]).foldr CompilationError.escapeFrom raw).outermostSpan? = first.span := by
  have hlocation : raw.trace.location = none := by rw [hraw]; rfl
  rw [CompilationError.foldr_escapeFrom_of_unlocated hlocation, CompilationError.outermostSpan?,
    CompilationError.trace_withTrace, hraw]
  cases around with
  | nil =>
    obtain rfl : c = first := by simpa using hfirst
    rfl
  | cons outermost inner =>
    obtain rfl : outermost = first := by simpa using hfirst
    simp [Trace.unknown]

/-- With the standard registry, an error concerns the first call of the document whose expansion
fails. -/
theorem exists_outermost_of_expand (hregistry : e.registry = .standard files)
    (h : (e.expand limit capacity d).result = .error (.reported error)) :
    ∃ front c behind, d.nodes = front ++ .call c :: behind ∧
      (∀ earlier, .call earlier ∈ front →
        ∃ passages, (e.expand limit capacity ⟨[.call earlier]⟩).result = .ok passages) ∧
      (∃ failure, (e.expand limit capacity ⟨[.call c]⟩).result = .error failure) ∧
      error.outermostSpan? = c.span := by
  obtain ⟨around, innermost, raw, hraises⟩ := exists_raises h
  have herror := hraises.expand_eq
  rw [h] at herror
  obtain rfl := Failure.reported.inj (Except.error.inj herror)
  have hraw := hraises.trace_eq_unknown hregistry
  obtain ⟨_, stop, hstops, -⟩ := hraises
  obtain ⟨front, c, behind, hnodes, ⟨_, _, hfront⟩, ⟨_, hcall⟩, hhead⟩ := hstops.exists_outermost
  refine ⟨front, c, behind, hnodes, ?_, ?_, outermostSpan?_escaped hraw hhead⟩
  · intro earlier hmem
    obtain ⟨_, passages, hcompletes⟩ := hfront.of_mem hmem
    exact ⟨passages, by rw [expand_eq_expandNodes, hcompletes.expandNodes_eq]⟩
  · rw [expand_eq_expandNodes, hcall.expandNodes_eq]
    exact ⟨_, rfl⟩

end Expander

namespace FileTree

variable {files : FileTree} {path : Path} {text : String} {diagnostics : List Diagnostic}

/-- A document that cannot be read has one diagnostic, at its first misspelled call. -/
theorem diagnose_of_misspelled {failure : Failure CompilationError}
    (h : files.diagnose path text = .ok diagnostics)
    (hparse : Document.parse text path = .error failure) :
    ∃ diagnostic, diagnostics = [diagnostic] ∧ diagnostic.severity = .error ∧
      ∃ before body fault, (leftmost text.toList).Misspells before body fault ∧
        diagnostic.range.Covers text.toList before (braced body) := by
  obtain ⟨before, body, fault, hmisspells, rfl⟩ := Document.parse_eq_error_iff.mp hparse
  simp only [diagnose, hparse] at h
  obtain ⟨error, diagnostic, hreported, rfl, hdiagnostic⟩ := Diagnostic.exists_of_ofFailure h
  cases fault with
  | aborted abort => cases hreported
  | reported fault =>
    obtain rfl := Failure.reported.inj hreported
    obtain ⟨hseverity, hrange⟩ := Diagnostic.eq_of_ofError hdiagnostic rfl
    obtain ⟨rest, hsource⟩ := hmisspells.exists_source_eq
    rw [source_leftmost] at hsource
    exact ⟨diagnostic, rfl, hseverity, before, body, _, hmisspells,
      EditorRange.covers_of_ofSpan ⟨rest, hsource.symm⟩ hrange⟩

/-- A document that can be read but not expanded has one diagnostic, at its first call that fails.
-/
theorem diagnose_of_stopped {d : Document} {failure : Failure CompilationError}
    (h : files.diagnose path text = .ok diagnostics) (hparse : Document.parse text path = .ok d)
    (hexpand : (files.expander.expand (some 64) defaultCapacity d).result = .error failure) :
    ∃ diagnostic, diagnostics = [diagnostic] ∧ diagnostic.severity = .warning ∧
      ∃ front c behind before body, d.nodes = front ++ .call c :: behind ∧
        (∀ earlier, .call earlier ∈ front → ∃ passages,
          (files.expander.expand (some 64) defaultCapacity ⟨[.call earlier]⟩).result =
            .ok passages) ∧
        (∃ failure, (files.expander.expand (some 64) defaultCapacity ⟨[.call c]⟩).result =
          .error failure) ∧
        c.span = some (Span.behind before (braced body)) ∧
        Invocation.ofBody body = .ok ⟨c.function, c.arguments⟩ ∧
        diagnostic.range.Covers text.toList before (braced body) := by
  have hresult : ((⟨.standard files, false⟩ : Expander).expand (some editorLimit) defaultCapacity
      d).result = .error failure := hexpand
  simp only [diagnose, hparse, hresult] at h
  obtain ⟨error, diagnostic, rfl, rfl, hdiagnostic⟩ := Diagnostic.exists_of_ofFailure h
  obtain ⟨front, c, behind, hnodes, hearlier, hcall, hspan⟩ :=
    Expander.exists_outermost_of_expand rfl hexpand
  have hmem : .call c ∈ d.nodes := by rw [hnodes]; exact List.mem_append_right _ List.mem_cons_self
  obtain ⟨before, body, hwritten, hplace, hbody⟩ := Document.exists_body_of_call hparse hmem
  obtain ⟨hseverity, hrange⟩ := Diagnostic.eq_of_ofError hdiagnostic (hspan.trans hplace)
  exact ⟨diagnostic, rfl, hseverity, front, c, behind, before, body, hnodes, hearlier, hcall,
    hplace, hbody, EditorRange.covers_of_ofSpan hwritten hrange⟩

/-- A document that can be expanded has no diagnostic. -/
theorem diagnose_of_expanded {d : Document} {passages : List Passage}
    (h : files.diagnose path text = .ok diagnostics) (hparse : Document.parse text path = .ok d)
    (hexpand : (files.expander.expand (some 64) defaultCapacity d).result = .ok passages) :
    diagnostics = [] := by
  have hresult : ((⟨.standard files, false⟩ : Expander).expand (some editorLimit) defaultCapacity
      d).result = .ok passages := hexpand
  simp only [diagnose, hparse, hresult] at h
  exact (Except.ok.inj h).symm

/-- **Diagnoses agree with compilation and point at the right call.** A published diagnosis is empty
exactly when the document can be read, and expanded without a limit, and its calls nest at most 64
deep. Otherwise it is one diagnostic. It is an error exactly when the document cannot be read, and
then its range covers the first closed call that is misspelled; and else it is a warning, and its
range covers the first call of the document whose expansion under the limit fails. -/
theorem diagnose_agrees_with_expand (h : files.diagnose path text = .ok diagnostics) :
    (diagnostics = [] ↔ ∃ d, Document.parse text path = .ok d ∧
      (∃ capacity passages, (files.expander.expand none capacity d).result = .ok passages) ∧
      ∃ height, IsGreatest (files.expander.nestings d.nodes) height ∧ height ≤ 64) ∧
    (diagnostics ≠ [] → ∃ diagnostic, diagnostics = [diagnostic] ∧
      (diagnostic.severity = .error ↔ ∃ failure, Document.parse text path = .error failure) ∧
      (diagnostic.severity = .error →
        ∃ before body fault, (leftmost text.toList).Misspells before body fault ∧
          diagnostic.range.Covers text.toList before (braced body)) ∧
      (diagnostic.severity = .warning → ∃ d front c behind before body,
        Document.parse text path = .ok d ∧ d.nodes = front ++ .call c :: behind ∧
        (∀ earlier, .call earlier ∈ front → ∃ passages,
          (files.expander.expand (some 64) defaultCapacity ⟨[.call earlier]⟩).result =
            .ok passages) ∧
        (∃ failure, (files.expander.expand (some 64) defaultCapacity ⟨[.call c]⟩).result =
          .error failure) ∧
        c.span = some (Span.behind before (braced body)) ∧
        Invocation.ofBody body = .ok ⟨c.function, c.arguments⟩ ∧
        diagnostic.range.Covers text.toList before (braced body))) := by
  cases hparse : Document.parse text path with
  | error failure =>
    obtain ⟨diagnostic, rfl, hseverity, hplace⟩ := diagnose_of_misspelled h hparse
    refine ⟨by simp, fun _ => ⟨diagnostic, rfl, by simp [hseverity], fun _ => hplace, ?_⟩⟩
    simp [hseverity]
  | ok d =>
    have hlimit := @Expander.exists_expand_some_eq_ok_iff files.expander 64 defaultCapacity d
      (by decide)
    cases hexpand : (files.expander.expand (some 64) defaultCapacity d).result with
    | ok passages =>
      obtain rfl := diagnose_of_expanded h hparse hexpand
      exact ⟨⟨fun _ => ⟨d, rfl, hlimit.mp ⟨passages, hexpand⟩⟩, fun _ => rfl⟩, by simp⟩
    | error failure =>
      obtain ⟨diagnostic, rfl, hseverity, hplace⟩ := diagnose_of_stopped h hparse hexpand
      constructor
      · -- Within the limit it could be expanded, and there would be nothing to tell.
        refine ⟨by simp, ?_⟩
        rintro ⟨d', hd', hexpanded⟩
        obtain rfl := Except.ok.inj hd'
        obtain ⟨passages, hok⟩ := hlimit.mpr hexpanded
        rw [hexpand] at hok
        cases hok
      · intro _
        refine ⟨diagnostic, rfl, by simp [hseverity], by simp [hseverity], ?_⟩
        intro _
        obtain ⟨front, c, behind, before, body, hplace⟩ := hplace
        exact ⟨d, front, c, behind, before, body, rfl, hplace⟩

/-- A file that includes another one, in which no provider exposes the function that is called. -/
def chainedFiles : FileTree where
  workingDirectory := []
  clock := 0
  pathLimit := none
  entries := [
    ([], .directory 0),
    (["a.md"], .file (Utf8.encode "\x7b\x7binclude(#b.md#)\x7d\x7d") 0),
    (["b.md"], .file (Utf8.encode "\x7b\x7bf()\x7d\x7d") 0)]

/-- A document that includes the first of these files, on its second line. -/
def chainedText : String :=
  "x\n\x7b\x7binclude(#a.md#)\x7d\x7d"

/-- The diagnostic of a failure two files away covers the call in the open document. -/
theorem diagnose_agrees_with_expand_chained :
    chainedFiles.diagnose (Path.parse "input.md") chainedText =
        .ok [⟨⟨⟨1, 0⟩, ⟨1, 19⟩⟩,
          "function `f` is not found (in expansion: include -> include)", .warning⟩] ∧
      ∃ d front c behind before body,
        Document.parse chainedText (Path.parse "input.md") = .ok d ∧
        d.nodes = front ++ .call c :: behind ∧
        Invocation.ofBody body = .ok ⟨c.function, c.arguments⟩ ∧
        (⟨⟨1, 0⟩, ⟨1, 19⟩⟩ : EditorRange).Covers chainedText.toList before (braced body) := by
  have hpublished : chainedFiles.diagnose (Path.parse "input.md") chainedText =
      .ok [⟨⟨⟨1, 0⟩, ⟨1, 19⟩⟩,
        "function `f` is not found (in expansion: include -> include)", .warning⟩] := by
    decide +kernel
  refine ⟨hpublished, ?_⟩
  obtain ⟨-, hdiagnostic⟩ := diagnose_agrees_with_expand hpublished
  obtain ⟨diagnostic, heq, -, -, hwarning⟩ := hdiagnostic (List.cons_ne_nil _ _)
  obtain rfl := List.head_eq_of_cons_eq heq
  obtain ⟨d, front, c, behind, before, body, hparse, hnodes, -, -, -, hbody, hcovers⟩ :=
    hwarning rfl
  exact ⟨d, front, c, behind, before, body, hparse, hnodes, hbody, hcovers⟩

end FileTree

end Transclude
