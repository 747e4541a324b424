import Transclude.CommandLine.Run
import Transclude.Proofs.CommandLine.Breaking
import Transclude.Proofs.CommandLine.Configuration
import Transclude.Proofs.CommandLine.Once

/-!
# What a run reports

A run that does not watch turns an error of the options or of the compilation into an exit code, and
tells it. It does not do so for everything that can go wrong: the resolving of options can be broken
off by the configuration, the attempt by a file that it needs, and the writing by the output. These
are all the ways in which such a run ends without a code.

## Main definitions

* `CommandLine.Escapes` — what nobody answers for in a run that does not watch
* `CommandLine.Reports` — what is told with a code that is not zero

## Main results

* `CommandLine.run_abort_iff` — when a run has a code, and what it tells
-/

namespace Transclude.CommandLine

/-- What nobody answers for in a run that does not watch. -/
inductive Escapes (room : Nat) (a : Arguments) (files : FileTree) : Abort → Prop
  /-- The options cannot be resolved. -/
  | obstructed {abort} (hobstructed : Options.Obstructed a files abort) : Escapes room a files abort
  /-- The attempt is broken off, or what it comes to cannot be written. -/
  | unanswered {o abort} (hresolve : Options.resolve a files = .ok o)
      (hunanswered : o.Unanswered room files abort) : Escapes room a files abort
  /-- The expansion runs out of room, as one without end does. -/
  | endless {o} (hresolve : Options.resolve a files = .ok o)
      (hresult : (o.attempt room files).result = .error (.aborted .endless)) :
      Escapes room a files .endless

/-- What is told with a code that is not zero. -/
inductive Reports (room : Nat) (a : Arguments) (files : FileTree) :
    (code : Nat) → (stderr : String) → Prop
  | options {fault} (hresolve : Options.resolve a files = .error (.reported fault)) :
      Reports room a files 2 s!"error: {fault.message}\n"
  | compilation {o error} (hresolve : Options.resolve a files = .ok o)
      (hresult : (o.attempt room files).result = .error (.reported error)) :
      Reports room a files error.category.exitCode
        ((o.attempt room files).shown ++ error.report ++ "\n")

/-- How a run that does not watch ends. -/
inductive Ends (room : Nat) (a : Arguments) (files : FileTree) : Outcome → Prop
  | reported {code stderr} (hreports : Reports room a files code stderr) :
      Ends room a files (.unchanged files "" stderr (.exited code))
  | escaped {stderr abort} (hescapes : Escapes room a files abort) :
      Ends room a files (.unchanged files "" stderr (.aborted abort))
  | written {o text later} (hresolve : Options.resolve a files = .ok o)
      (hresult : (o.attempt room files).result = .ok text)
      (hwrite : files.write o.outputFile (Utf8.encode text) = .ok later) :
      Ends room a files ⟨"", (o.attempt room files).shown, [], files, later, .exited 0⟩

variable {words : List String} {a : Arguments} {files : FileTree} {o : Options} {abort : Abort}
variable {room code : Nat} {stderr : String}

/-- An error has the code one or two. -/
theorem Reports.code_bounds (h : Reports room a files code stderr) : 1 ≤ code ∧ code ≤ 2 := by
  cases h with
  | options _ => simp
  | @compilation _ error _ _ => cases error.category <;> simp [Category.exitCode]

/-- Every attempt is reported, escapes or is written. -/
theorem ends_finish (hresolve : Options.resolve a files = .ok o) :
    Ends room a files (o.finish files (o.attempt room files)) := by
  unfold Options.finish
  split
  · rename_i error hresult
    exact .reported (.compilation hresolve hresult)
  · rename_i abort hresult
    -- A watch answers for expansion without end, so that is told apart from the rest.
    by_cases hendless : abort = .endless
    · subst hendless
      exact .escaped (.endless hresolve hresult)
    · have hbreaks := Options.breaksOff_of_attempt hresult
      exact .escaped (.unanswered hresolve (.brokenOff hresult hbreaks hendless))
  · rename_i text hresult
    unfold Options.writeOutput
    cases hwrite : files.write o.outputFile (Utf8.encode text) with
    | error fault => exact .escaped (.unanswered hresolve (.unwritten hresult hwrite))
    | ok later => exact .written hresolve hresult hwrite

/-- Every run that does not watch ends in one of these ways. -/
theorem ends_run (hwords : Arguments.parse words = .ok a) (hwatch : a.watch = false)
    (room : Nat) (files : FileTree) (edits : List (FileTree → FileTree)) :
    Ends room a files (run room words files edits) := by
  cases hresolve : Options.resolve a files with
  | ok o =>
    rw [run_eq_finish hwords hwatch hresolve]
    exact ends_finish hresolve
  | error failure =>
    simp only [run, hwords, hresolve]
    cases failure with
    | reported fault => exact .reported (.options hresolve)
    | aborted abort => exact .escaped (.obstructed (Options.resolve_eq_aborted_iff.mp hresolve))

/-- What nobody answers for is how the run ends. -/
theorem ending_of_escapes (hwords : Arguments.parse words = .ok a) (hwatch : a.watch = false)
    (h : Escapes room a files abort) (edits : List (FileTree → FileTree)) :
    (run room words files edits).ending = .aborted abort := by
  cases h with
  | obstructed hobstructed =>
    simp only [run, hwords, Options.resolve_eq_aborted_iff.mpr hobstructed,
      Outcome.ofOptionFailure, Outcome.unchanged]
  | unanswered hresolve hunanswered =>
    rw [run_eq_finish hwords hwatch hresolve]
    cases hunanswered with
    | brokenOff hresult _ _ => exact (Options.finish_of_aborted hresult).1
    | unwritten hresult hwrite =>
      simp only [Options.finish, hresult, Options.writeOutput, hwrite, Except.mapError,
        Outcome.unchanged]
  | endless hresolve hresult =>
    rw [run_eq_finish hwords hwatch hresolve]
    exact (Options.finish_of_aborted hresult).1

/-- **A run that does not watch ends without a code only by what nobody answers for.** Otherwise it
ends with the code zero, or it tells an error of the options or of the compilation and ends with the
code that this comes to, which is one or two. -/
theorem run_abort_iff (hwords : Arguments.parse words = .ok a) (hwatch : a.watch = false)
    (room : Nat) (files : FileTree) (edits : List (FileTree → FileTree)) :
    (∀ abort, (run room words files edits).ending = .aborted abort ↔ Escapes room a files abort) ∧
    ((∀ abort, ¬ Escapes room a files abort) →
      (run room words files edits).ending = .exited 0 ∨
        ∃ code, 1 ≤ code ∧ code ≤ 2 ∧ (run room words files edits).ending = .exited code ∧
          Reports room a files code (run room words files edits).stderr) := by
  -- All that is used of the outcome is the way in which it ends.
  have hends := ends_run hwords hwatch room files edits
  refine ⟨fun abort => ⟨?_, fun h => ending_of_escapes hwords hwatch h edits⟩, ?_⟩
  · intro hending
    generalize run room words files edits = outcome at hends hending
    cases hends with
    | reported _ => cases hending
    | escaped hescapes =>
      cases hending
      exact hescapes
    | written _ _ _ => cases hending
  · intro hanswered
    generalize run room words files edits = outcome at hends ⊢
    cases hends with
    | @reported code _ hreports =>
      obtain ⟨hpos, htwo⟩ := hreports.code_bounds
      exact .inr ⟨code, hpos, htwo, rfl, hreports⟩
    | escaped hescapes => exact absurd hescapes (hanswered _)
    | written _ _ _ => exact .inl rfl

/-- An input that includes a file with a misspelled call is told of, with a code. -/
theorem run_abort_iff_misspelledFiles :
    Arguments.parse ["in.md"] = .ok inputAlone ∧ inputAlone.watch = false ∧
      (∀ abort, ¬ Escapes defaultCapacity inputAlone misspelledFiles abort) ∧
      (run defaultCapacity ["in.md"] misspelledFiles []).ending = .exited 2 ∧
      Reports defaultCapacity inputAlone misspelledFiles 2
        (run defaultCapacity ["in.md"] misspelledFiles []).stderr := by
  have hwords : Arguments.parse ["in.md"] = .ok inputAlone := by decide +kernel
  have hending : (run defaultCapacity ["in.md"] misspelledFiles []).ending = .exited 2 := by
    decide +kernel
  obtain ⟨hescapes, hreports⟩ := run_abort_iff hwords rfl defaultCapacity misspelledFiles []
  have hanswered : ∀ abort, ¬ Escapes defaultCapacity inputAlone misspelledFiles abort := by
    intro abort h
    rw [← hescapes, hending] at h
    cases h
  refine ⟨hwords, rfl, hanswered, hending, ?_⟩
  obtain hzero | ⟨code, -, -, hcode, htold⟩ := hreports hanswered
  · rw [hending] at hzero
    cases hzero
  · rw [hending] at hcode
    cases hcode
    exact htold

/-- An input beside a configuration that is no text. -/
def spoiledConfiguration : FileTree where
  workingDirectory := []
  clock := 0
  pathLimit := none
  entries := [
    ([], .directory 0),
    (["in.md"], .file (Utf8.encode "hi") 0),
    (["mdpp.toml"], .file [0xFF] 0)]

/-- Not every failure has a code, even if the expansion ends: a configuration that is no text breaks
off the run. -/
theorem not_exists_exitCode :
    ¬ ∀ (room : Nat) (words : List String) (a : Arguments) (files : FileTree)
      (edits : List (FileTree → FileTree)), Arguments.parse words = .ok a → a.watch = false →
        (∀ o, Options.resolve a files = .ok o →
          (o.attempt room files).result ≠ .error (.aborted .endless)) →
        ∃ code ≤ 2, (run room words files edits).ending = .exited code := by
  intro h
  have hwords : Arguments.parse ["in.md"] = .ok inputAlone := by decide +kernel
  have hunresolved : (Options.resolve inputAlone spoiledConfiguration).isOk = false := by
    decide +kernel
  have hending : (run defaultCapacity ["in.md"] spoiledConfiguration []).ending =
      .aborted (.undecodable ⟨0xFF, 0, 1, .invalidStart⟩) := by
    decide +kernel
  have hends (o : Options) (hresolve : Options.resolve inputAlone spoiledConfiguration = .ok o) :
      (o.attempt defaultCapacity spoiledConfiguration).result ≠ .error (.aborted .endless) := by
    rw [hresolve] at hunresolved
    cases hunresolved
  obtain ⟨code, -, hcode⟩ :=
    h defaultCapacity ["in.md"] inputAlone spoiledConfiguration [] hwords rfl hends
  rw [hending] at hcode
  cases hcode

end Transclude.CommandLine
