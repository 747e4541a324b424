import Transclude.CommandLine.Run
import Transclude.Document.Render
import Transclude.Proofs.Expansion.Attribution
import Transclude.Proofs.Expansion.Exhaustion
import Transclude.Proofs.FileTree.Writing
import Transclude.Proofs.Provenance

/-!
# Runs that do not watch

A run that does not watch resolves its options, reads the input, reads it as a document, expands the
document, and writes the text. It comes to an end at the first of these stages that fails, and its
exit code tells the stage. Only the last stage touches a file, and it touches only the output: a run
that fails leaves everything as it was.

## Main definitions

* `Options.Attempts` — how far an attempt comes
* `CommandLine.EndsOnce` — how far a run comes, and what it leaves behind

## Main results

* `Options.result_attemptDocument` — listing the documents on the way never fails
* `Options.attempts_attempt` — every attempt comes to one of its stages
* `CommandLine.run_eq_of_ne_endless` — room makes no difference to a run that does not run out of it
* `CommandLine.run_endsOnce` — every run comes to one of its stages
* `CommandLine.run_once` — what the exit codes tell, and that failing leaves the files alone
-/

namespace Transclude

namespace Options

/-- How far an attempt comes, and what it comes to there. -/
inductive Attempts (o : Options) (room : Nat) (files : FileTree) :
    Except (Failure CompilationError) String → Prop
  /-- The input cannot be read. -/
  | unread {fault} (hread : files.readSource o.inputFile = .error fault) :
      o.Attempts room files (.error (fault.failure o.inputFile (.unreadable o.inputFile)))
  /-- The input has a call that is misspelled. -/
  | misspelled {text failure} (hread : files.readSource o.inputFile = .ok text)
      (hparse : Document.parse text o.inputFile = .error failure) :
      o.Attempts room files (.error failure)
  /-- The expansion fails. -/
  | stopped {text d failure} (hread : files.readSource o.inputFile = .ok text)
      (hparse : Document.parse text o.inputFile = .ok d)
      (hexpand : ((o.expander files).expand (o.maxDepth.map Int.ofNat) room d).result =
        .error failure) :
      o.Attempts room files (.error failure)
  /-- The expansion succeeds. -/
  | compiled {text d passages} (hread : files.readSource o.inputFile = .ok text)
      (hparse : Document.parse text o.inputFile = .ok d)
      (hexpand : ((o.expander files).expand (o.maxDepth.map Int.ofNat) room d).result =
        .ok passages) :
      o.Attempts room files (.ok (joinPassages passages))

variable {o : Options} {a : Arguments} {room : Nat} {files : FileTree} {attempt : Attempt}
variable {text : String} {d : Document}

/-- A document whose nodes all have places can be listed, whether or not that is asked for. -/
theorem exists_listing_of_isPlaced (o : Options) (title : String) (h : d.isPlaced = true) :
    ∃ lines, o.listing title d = .ok lines := by
  unfold listing
  split
  · exact ⟨_, if_pos h⟩
  · exact ⟨_, rfl⟩

/-- An attempt at a document that is read comes to what its expansion comes to: neither this
document nor what it is expanded to fails to be listed. -/
theorem result_attemptDocument (hparse : Document.parse text o.inputFile = .ok d) :
    (o.attemptDocument room files d).result =
      (((o.expander files).expand (o.maxDepth.map Int.ofNat) room d).result).map
        joinPassages := by
  obtain ⟨segmented, hsegmented⟩ :=
    o.exists_listing_of_isPlaced "Segmented" (Document.isPlaced_of_parse hparse)
  simp only [attemptDocument, hsegmented]
  cases hexpand : ((o.expander files).expand (o.maxDepth.map Int.ofNat) room d).result with
  | error failure => rfl
  | ok passages =>
    obtain ⟨evaluated, hevaluated⟩ :=
      o.exists_listing_of_isPlaced "Evaluated" (Expander.isPlaced_of_expand rfl hparse hexpand)
    simp only [hevaluated]
    rfl

/-- Every attempt comes to one of its stages. -/
theorem attempts_attempt (o : Options) (room : Nat) (files : FileTree) :
    o.Attempts room files (o.attempt room files).result := by
  unfold Options.attempt readInput
  cases hread : files.readSource o.inputFile with
  | error fault => exact .unread hread
  | ok text =>
    cases hparse : Document.parse text o.inputFile with
    | error failure =>
      simp only [Except.mapError, bind, Except.bind, hparse]
      exact .misspelled hread hparse
    | ok d =>
      simp only [Except.mapError, bind, Except.bind, hparse, result_attemptDocument hparse]
      cases hexpand : ((o.expander files).expand (o.maxDepth.map Int.ofNat) room d).result with
      | error failure => exact .stopped hread hparse hexpand
      | ok passages => exact .compiled hread hparse hexpand

/-- A configuration has no say in whether to watch, and none in what is told on the way. -/
theorem switches_of_resolve (h : resolve a files = .ok o) :
    o.watch = a.watch ∧ o.debug = a.debug ∧ o.verbose = a.verbose := by
  obtain ⟨configuration, -, hmerge⟩ := exists_merge_of_resolve h
  obtain ⟨_, _, -, -, rfl⟩ := mergeEntries_eq_ok_iff.mp hmerge
  exact ⟨rfl, rfl, rfl⟩

/-- The ending of a run whose attempt succeeds. -/
theorem finish_of_ok (h : attempt.result = .ok text) :
    (∃ written, files.write o.outputFile (Utf8.encode text) = .ok written ∧
      (o.finish files attempt).ending = .exited 0 ∧ (o.finish files attempt).files = written) ∨
    ∃ abort, (o.finish files attempt).ending = .aborted abort ∧
      (o.finish files attempt).files = files := by
  simp only [finish, h, writeOutput]
  cases hwrite : files.write o.outputFile (Utf8.encode text) with
  | error fault => exact .inr ⟨_, rfl, rfl⟩
  | ok written => exact .inl ⟨written, rfl, rfl, rfl⟩

/-- The ending of a run whose attempt reports an error. -/
theorem finish_of_reported {error : CompilationError}
    (h : attempt.result = .error (.reported error)) :
    (o.finish files attempt).ending = .exited error.category.exitCode ∧
      (o.finish files attempt).files = files := by
  unfold finish
  rw [h]
  exact ⟨rfl, rfl⟩

/-- The ending of a run whose attempt is broken off. -/
theorem finish_of_aborted {abort : Abort} (h : attempt.result = .error (.aborted abort)) :
    (o.finish files attempt).ending = .aborted abort ∧ (o.finish files attempt).files = files := by
  unfold finish
  rw [h]
  exact ⟨rfl, rfl⟩

end Options

/-- An input that cannot be read is an error of its own kind. -/
theorem SourceFault.category_of_failure {path : Path} {error : CompilationError}
    (fault : SourceFault) (h : fault.failure path (.unreadable path) = .reported error) :
    error.category = .source := by
  unfold failure at h
  split at h <;> cases h <;> rfl

namespace CommandLine

/-- How far a run that does not watch comes, with its ending and the files that it leaves. -/
inductive EndsOnce (room : Nat) (a : Arguments) (files : FileTree) : Ending → FileTree → Prop
  /-- An option or the configuration is rejected. -/
  | rejected {fault} (hresolve : Options.resolve a files = .error (.reported fault)) :
      EndsOnce room a files (.exited 2) files
  /-- The input cannot be read. -/
  | unread {o fault} (hresolve : Options.resolve a files = .ok o)
      (hread : files.readSource o.inputFile = .error fault) :
      EndsOnce room a files (.exited 1) files
  /-- A call of the input is misspelled. -/
  | misspelled {o text error} (hresolve : Options.resolve a files = .ok o)
      (hread : files.readSource o.inputFile = .ok text)
      (hparse : Document.parse text o.inputFile = .error (.reported error)) :
      EndsOnce room a files (.exited 1) files
  /-- A call cannot be expanded. -/
  | stopped {o text d error} (hresolve : Options.resolve a files = .ok o)
      (hread : files.readSource o.inputFile = .ok text)
      (hparse : Document.parse text o.inputFile = .ok d)
      (hexpand : ∀ capacity, room ≤ capacity →
        ((o.expander files).expand (o.maxDepth.map Int.ofNat) capacity d).result =
          .error (.reported error)) :
      EndsOnce room a files (.exited 2) files
  /-- The output is written. -/
  | written {o text d passages place later} (hresolve : Options.resolve a files = .ok o)
      (hread : files.readSource o.inputFile = .ok text)
      (hparse : Document.parse text o.inputFile = .ok d)
      (hexpand : ∀ capacity, room ≤ capacity →
        ((o.expander files).expand (o.maxDepth.map Int.ofNat) capacity d).result = .ok passages)
      (hfollow : later.follow o.outputFile = .ok place)
      (hdiffers : files.DiffersAt later place (Utf8.encode (joinPassages passages))) :
      EndsOnce room a files (.exited 0) later
  /-- Something that nobody answers for breaks off the run. -/
  | aborted {abort} : EndsOnce room a files (.aborted abort) files

variable {words : List String} {a : Arguments} {room : Nat} {files : FileTree}

/-- Once the options are resolved, a run that does not watch comes to one of the later stages. -/
theorem finish_endsOnce {o : Options} (hresolve : Options.resolve a files = .ok o) :
    EndsOnce room a files (o.finish files (o.attempt room files)).ending
      (o.finish files (o.attempt room files)).files := by
  have hattempts := o.attempts_attempt room files
  generalize hresult : (o.attempt room files).result = result at hattempts
  cases hattempts with
  | @unread fault hread =>
    -- Here and below: an error has a code by its category, anything else breaks off the run.
    cases hfailure : fault.failure o.inputFile (.unreadable o.inputFile) with
    | aborted abort =>
      obtain ⟨hending, hfiles⟩ := Options.finish_of_aborted (hresult.trans (congrArg _ hfailure))
      rw [hending, hfiles]
      exact .aborted
    | reported error =>
      obtain ⟨hending, hfiles⟩ := Options.finish_of_reported (hresult.trans (congrArg _ hfailure))
      rw [hending, hfiles, fault.category_of_failure hfailure]
      exact .unread hresolve hread
  | @misspelled text failure hread hparse =>
    cases failure with
    | aborted abort =>
      obtain ⟨hending, hfiles⟩ := Options.finish_of_aborted hresult
      rw [hending, hfiles]
      exact .aborted
    | reported error =>
      obtain ⟨hending, hfiles⟩ := Options.finish_of_reported hresult
      rw [hending, hfiles, Document.category_of_parse hparse]
      exact .misspelled hresolve hread hparse
  | @stopped text d failure hread hparse hexpand =>
    cases failure with
    | aborted abort =>
      obtain ⟨hending, hfiles⟩ := Options.finish_of_aborted hresult
      rw [hending, hfiles]
      exact .aborted
    | reported error =>
      obtain ⟨hending, hfiles⟩ := Options.finish_of_reported hresult
      rw [hending, hfiles, Expander.category_of_expand rfl hexpand]
      exact .stopped hresolve hread hparse fun _ =>
        Expander.result_expand_of_le_capacity hexpand (by simp)
  | @compiled text d passages hread hparse hexpand =>
    obtain ⟨later, hwrite, hending, hfiles⟩ | ⟨abort, hending, hfiles⟩ :=
      Options.finish_of_ok hresult
    · obtain ⟨place, hfollow, hdiffers⟩ := FileTree.exists_differsAt_of_write hwrite
      rw [hending, hfiles]
      exact .written hresolve hread hparse
        (fun _ => Expander.result_expand_of_le_capacity hexpand (by simp)) hfollow hdiffers
    · rw [hending, hfiles]
      exact .aborted

/-- Once the options are resolved, a run that does not watch makes its attempt. -/
theorem run_eq_finish {o : Options} (hwords : Arguments.parse words = .ok a)
    (hwatch : a.watch = false) (hresolve : Options.resolve a files = .ok o)
    (edits : List (FileTree → FileTree)) :
    run room words files edits = o.finish files (o.attempt room files) := by
  simp only [run, hwords, hresolve, Options.run, (Options.switches_of_resolve hresolve).1, hwatch,
    Bool.false_eq_true, if_false]

/-- Every run that does not watch comes to one of its stages. -/
theorem run_endsOnce (hwords : Arguments.parse words = .ok a) (hwatch : a.watch = false)
    (room : Nat) (files : FileTree) (edits : List (FileTree → FileTree)) :
    EndsOnce room a files (run room words files edits).ending
      (run room words files edits).files := by
  cases hresolve : Options.resolve a files with
  | ok o =>
    rw [run_eq_finish hwords hwatch hresolve]
    exact finish_endsOnce hresolve
  | error failure =>
    simp only [run, hwords, hresolve]
    cases failure with
    | reported fault => exact .rejected hresolve
    | aborted abort => exact .aborted

/-- **A run that does not watch does all or nothing.** It is finished with the code zero, one or
two, or broken off. With zero, the trees before and after it differ in the output file only, and
this holds the text that the input is expanded to. With one, the input cannot be read, or it has a
call that is misspelled itself. With two, the options or the configuration have been rejected, or a
call cannot be expanded. In every case but the first the files are as they were. -/
theorem run_once (hwords : Arguments.parse words = .ok a) (hwatch : a.watch = false)
    (room : Nat) (files : FileTree) (edits : List (FileTree → FileTree)) :
    ((∃ code ≤ 2, (run room words files edits).ending = .exited code) ∨
      ∃ abort, (run room words files edits).ending = .aborted abort) ∧
    ((run room words files edits).ending = .exited 0 →
      ∃ o text d passages rendered place, Options.resolve a files = .ok o ∧
        files.readSource o.inputFile = .ok text ∧ Document.parse text o.inputFile = .ok d ∧
        (∀ capacity, room ≤ capacity →
          ((o.expander files).expand (o.maxDepth.map Int.ofNat) capacity d).result =
            .ok passages) ∧
        (Document.ofPassages passages).render = .ok rendered ∧
        (run room words files edits).files.follow o.outputFile = .ok place ∧
        files.DiffersAt (run room words files edits).files place (Utf8.encode rendered)) ∧
    ((run room words files edits).ending = .exited 1 → ∃ o, Options.resolve a files = .ok o ∧
      ((∃ fault, files.readSource o.inputFile = .error fault) ∨
        ∃ text error, files.readSource o.inputFile = .ok text ∧
          Document.parse text o.inputFile = .error (.reported error))) ∧
    ((run room words files edits).ending = .exited 2 →
      (∃ fault, Options.resolve a files = .error (.reported fault)) ∨
        ∃ o text d error, Options.resolve a files = .ok o ∧
          files.readSource o.inputFile = .ok text ∧ Document.parse text o.inputFile = .ok d ∧
          (∀ capacity, room ≤ capacity →
            ((o.expander files).expand (o.maxDepth.map Int.ofNat) capacity d).result =
              .error (.reported error)) ∧
          error.category = .provider) ∧
    ((run room words files edits).ending ≠ .exited 0 →
      (run room words files edits).files = files) := by
  have hends := run_endsOnce hwords hwatch room files edits
  generalize (run room words files edits).ending = ending,
    (run room words files edits).files = later at hends ⊢
  cases hends with
  | rejected hresolve =>
    exact ⟨.inl ⟨2, le_refl 2, rfl⟩, by simp, by simp, fun _ => .inl ⟨_, hresolve⟩, fun _ => rfl⟩
  | @unread o fault hresolve hread =>
    exact ⟨.inl ⟨1, by simp, rfl⟩, by simp, fun _ => ⟨o, hresolve, .inl ⟨fault, hread⟩⟩, by simp,
      fun _ => rfl⟩
  | @misspelled o text error hresolve hread hparse =>
    exact ⟨.inl ⟨1, by simp, rfl⟩, by simp,
      fun _ => ⟨o, hresolve, .inr ⟨text, error, hread, hparse⟩⟩, by simp, fun _ => rfl⟩
  | @stopped o text d error hresolve hread hparse hexpand =>
    refine ⟨.inl ⟨2, le_refl 2, rfl⟩, by simp, by simp, ?_, fun _ => rfl⟩
    intro _
    have hcategory := Expander.category_of_expand rfl (hexpand _ (le_refl _))
    exact .inr ⟨o, text, d, error, hresolve, hread, hparse, hexpand, hcategory⟩
  | @written o text d passages place later hresolve hread hparse hexpand hfollow hdiffers =>
    refine ⟨.inl ⟨0, by simp, rfl⟩, ?_, by simp, by simp, by simp⟩
    intro _
    exact ⟨o, text, d, passages, joinPassages passages, place, hresolve, hread, hparse, hexpand,
      Document.render_ofPassages passages, hfollow, hdiffers⟩
  | @aborted abort => exact ⟨.inr ⟨abort, rfl⟩, by simp, by simp, by simp, fun _ => rfl⟩

/-- An input that includes a file with a misspelled call. -/
def misspelledFiles : FileTree where
  workingDirectory := []
  clock := 0
  pathLimit := none
  entries := [
    ([], .directory 0),
    (["in.md"], .file (Utf8.encode "\x7b\x7binclude(#a.md#)\x7d\x7d") 0),
    (["a.md"], .file (Utf8.encode "\x7b\x7bf-()\x7d\x7d") 0)]

/-- The arguments that give the input alone. -/
def inputAlone : Arguments :=
  { Arguments.none with input := "in.md" }

/-- A misspelled call in a file that is included is not one of the input: the code is two. -/
theorem run_once_misspelledFiles :
    Arguments.parse ["in.md"] = .ok inputAlone ∧ inputAlone.watch = false ∧
      (run defaultCapacity ["in.md"] misspelledFiles []).ending = .exited 2 ∧
      (run defaultCapacity ["in.md"] misspelledFiles []).files = misspelledFiles ∧
      ∃ o text d error, Options.resolve inputAlone misspelledFiles = .ok o ∧
        misspelledFiles.readSource o.inputFile = .ok text ∧
        Document.parse text o.inputFile = .ok d ∧
        (∀ capacity, defaultCapacity ≤ capacity →
          ((o.expander misspelledFiles).expand (o.maxDepth.map Int.ofNat) capacity d).result =
            .error (.reported error)) ∧
        error.category = .provider := by
  have hwords : Arguments.parse ["in.md"] = .ok inputAlone := by decide +kernel
  have hending : (run defaultCapacity ["in.md"] misspelledFiles []).ending = .exited 2 := by
    decide +kernel
  have hresolve : (Options.resolve inputAlone misspelledFiles).isOk = true := by decide +kernel
  obtain ⟨-, -, -, hcode, hfiles⟩ := run_once hwords rfl defaultCapacity misspelledFiles []
  refine ⟨hwords, rfl, hending, hfiles (by simp [hending]), ?_⟩
  -- The options are not what the code two complains of.
  obtain ⟨fault, hrejected⟩ | hstopped := hcode hending
  · rw [hrejected] at hresolve
    cases hresolve
  · exact hstopped

end CommandLine

end Transclude
