import Transclude.Proofs.Place
import Transclude.Proofs.Spelling.Numeral
import Transclude.Proofs.Splitting.Outline

/-!
# Misspelled calls

A source that cannot be read as a document holds a closed call that is misspelled. The first of
them is what the source fails with: its fault, located at its braces and at what stands between
them. A call that is left open is not read, however it is spelled.

## Main definitions

* `Splitting.Misspells` — the first misspelled call of a splitting, and what stands in front of it
* `SpellingFault.locatedAt` — the error that a misspelled call is reported with

## Main results

* `Span.behind_inj` — texts at one place of a source are the same
* `Splitting.Misspells.exists_source_eq` — where the misspelled call stands
* `Document.parse_eq_error_iff` — a source fails with its first misspelled call
* `Document.category_of_parse` — an error in reading is one of spelling
* `Document.abort_of_parse` — reading breaks off a run only at a number with too many digits
-/

namespace Transclude

open Splitting

/-- The first closed call that is misspelled has the given body, and the text `before` stands in
front of it. Reading it ends with the failure. -/
inductive Splitting.Misspells :
    Splitting → (before body : List Char) → Failure SpellingFault → Prop
  | here {text body rest failure} (hbody : Invocation.ofBody body = .error failure) :
      Misspells (.call text body rest) text body failure
  | behind {text body rest before body' failure}
      (hbody : ∃ invocation, Invocation.ofBody body = .ok invocation)
      (hrest : rest.Misspells before body' failure) :
      Misspells (.call text body rest) (text ++ braced body ++ before) body' failure

/-- The place of what is written behind a text, at the start of a source. -/
def Span.behind (before written : List Char) : Span :=
  ⟨Position.origin.after before, Position.origin.after (before ++ written)⟩

/-- The error that a misspelled call is reported with. -/
def SpellingFault.locatedAt (fault : SpellingFault) (location : Location) : CompilationError :=
  (CompilationError.ofFault (.spelling fault)).locate location

variable {source : String} {origin : Path} {before body : List Char}
variable {failure : Failure CompilationError} {fault : Failure SpellingFault}

/-- Texts that stand at one place of a source are the same. -/
theorem Span.behind_inj {source before written before' written' : List Char}
    (h : before ++ written <+: source) (h' : before' ++ written' <+: source)
    (hspan : Span.behind before written = Span.behind before' written') :
    before = before' ∧ written = written' := by
  have hlength : (before.length : Int) = before'.length := by
    simpa [Span.behind] using congrArg (·.start.offset) hspan
  have hslice : (Span.behind before written).slice source = written :=
    Span.Holds.slice_eq ⟨h, rfl⟩
  have hslice' : (Span.behind before' written').slice source = written' :=
    Span.Holds.slice_eq ⟨h', rfl⟩
  refine ⟨?_, by rw [← hslice, hspan, hslice']⟩
  have hprefix := List.prefix_of_prefix_length_le ((List.prefix_append _ _).trans h)
    ((List.prefix_append _ _).trans h') (by omega)
  exact hprefix.eq_of_length (by omega)

namespace Splitting

/-- The misspelled call stands behind what is said to stand in front of it. -/
theorem Misspells.exists_source_eq {s : Splitting} (h : s.Misspells before body fault) :
    ∃ rest, s.source = before ++ braced body ++ rest := by
  induction h with
  | @here text body rest => exact ⟨rest.source, by simp [Splitting.source, braced]⟩
  | behind _ _ ih =>
    obtain ⟨rest, hrest⟩ := ih
    exact ⟨rest, by simp [Splitting.source, braced, hrest]⟩

/-- The misspelled call is one that cannot be read. -/
theorem Misspells.ofBody_eq {s : Splitting} (h : s.Misspells before body fault) :
    Invocation.ofBody body = .error fault := by
  induction h with
  | here hbody => exact hbody
  | behind _ _ ih => exact ih

/-- The first misspelled call is one only. -/
theorem Misspells.unique {s : Splitting} {before' body' : List Char}
    {fault' : Failure SpellingFault} (h : s.Misspells before body fault)
    (h' : s.Misspells before' body' fault') : before = before' ∧ body = body' := by
  induction h generalizing before' with
  | here hbody =>
    cases h' with
    | here hbody' => exact ⟨rfl, rfl⟩
    | behind hbody' _ =>
      obtain ⟨invocation, hok⟩ := hbody'
      rw [hbody] at hok
      cases hok
  | behind hbody _ ih =>
    cases h' with
    | here hbody' =>
      obtain ⟨invocation, hok⟩ := hbody
      rw [hok] at hbody'
      cases hbody'
    | behind _ hrest' =>
      obtain ⟨rfl, rfl⟩ := ih hrest'
      exact ⟨rfl, rfl⟩

theorem read_call_eq_error_iff {span : Span} :
    (Piece.call body span).read origin source = .error failure ↔
      ∃ fault, Invocation.ofBody body = .error fault ∧
        failure = fault.map (·.locatedAt ⟨origin, some span, source⟩) := by
  cases hbody : Invocation.ofBody body <;>
    simp [Piece.read, hbody, SpellingFault.locatedAt, eq_comm]

theorem exists_read_call_eq_ok_iff {span : Span} :
    (∃ node, (Piece.call body span).read origin source = .ok node) ↔
      ∃ invocation, Invocation.ofBody body = .ok invocation := by
  simp [Piece.read_call_eq_ok_iff]

/-- Pieces behind a text cannot be read exactly when some call among them is misspelled. -/
theorem mapM_read_eq_error_iff {s : Splitting} (passed : List Char) :
    (s.pieces (Position.origin.after passed)).mapM (Piece.read origin source) = .error failure ↔
      ∃ before body fault, s.Misspells before body fault ∧
        failure = fault.map
          (·.locatedAt ⟨origin, some (Span.behind (passed ++ before) (braced body)), source⟩) := by
  induction s generalizing passed with
  | plain text =>
    constructor
    · rintro ⟨⟩
    · rintro ⟨_, _, _, ⟨⟩, _⟩
  | unclosed text rest =>
    constructor
    · rintro ⟨⟩
    · rintro ⟨_, _, _, ⟨⟩, _⟩
  | call text body rest ih =>
    have hspan : (⟨(Position.origin.after passed).after text,
        ((Position.origin.after passed).after text).after (braced body)⟩ : Span) =
        Span.behind (passed ++ text) (braced body) := by
      simp only [Span.behind, Position.after_append]
    have hrest := ih (passed ++ text ++ braced body)
    rw [Position.after_append, Position.after_append] at hrest
    rw [pieces_call, mapM_cons_eq_error_iff, mapM_cons_eq_error_iff, read_call_eq_error_iff,
      exists_read_call_eq_ok_iff, hrest, hspan]
    constructor
    · rintro (⟨⟨⟩⟩ | ⟨-, ⟨fault, hbody, rfl⟩ | ⟨hbody, before, body', fault, hmisspells, rfl⟩⟩)
      · exact ⟨text, body, fault, .here hbody, rfl⟩
      · exact ⟨_, body', fault, .behind hbody hmisspells, by simp⟩
    · rintro ⟨before, body', fault, hmisspells, rfl⟩
      refine .inr ⟨⟨_, rfl⟩, ?_⟩
      cases hmisspells with
      | here hbody => exact .inl ⟨fault, hbody, rfl⟩
      | @behind _ _ _ before _ _ hbody hmisspells =>
        exact .inr ⟨hbody, before, body', fault, hmisspells, by simp⟩

end Splitting

/-- A source cannot be read as a document exactly when some closed call is misspelled; the first of
them is what it fails with. -/
theorem Document.parse_eq_error_iff :
    Document.parse source origin = .error failure ↔
      ∃ before body fault, (leftmost source.toList).Misspells before body fault ∧
        failure = fault.map
          (·.locatedAt ⟨origin, some (Span.behind before (braced body)), source⟩) := by
  have hpieces := @mapM_read_eq_error_iff source origin failure (leftmost source.toList) []
  rw [Position.after_nil, ← Piece.scan_eq_pieces_leftmost] at hpieces
  simp only [List.nil_append] at hpieces
  rw [← hpieces, Document.parse]
  cases (Piece.scan source.toList).mapM (Piece.read origin source) <;> simp [Except.map]

/-- An error in reading a document is one of spelling. -/
theorem Document.category_of_parse {error : CompilationError}
    (h : Document.parse source origin = .error (.reported error)) : error.category = .spelling := by
  obtain ⟨_, _, fault, -, hfailure⟩ := parse_eq_error_iff.mp h
  cases fault with
  | aborted abort => cases hfailure
  | reported fault =>
    cases hfailure
    rfl

/-- Reading a document breaks off a run only at a number with too many digits. -/
theorem Document.abort_of_parse {abort : Abort}
    (h : Document.parse source origin = .error (.aborted abort)) :
    ∃ digits, abort = .oversizedNumeral digits := by
  obtain ⟨_, body, fault, hmisspells, hfailure⟩ := parse_eq_error_iff.mp h
  cases fault with
  | reported fault => cases hfailure
  | aborted other =>
    cases hfailure
    obtain ⟨digits, -, rfl⟩ := Invocation.breaksOff_of_ofBody hmisspells.ofBody_eq
    exact ⟨digits, rfl⟩

end Transclude
