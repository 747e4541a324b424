import Transclude.Proofs.CommandLine.Breaking
import Transclude.Proofs.Editor.Diagnosis
import Transclude.Proofs.Expansion.Machine

/-!
# A limit makes every expansion end

Whatever calls are answered with, an expansion under a limit ends, with calls nested no deeper than
the limit allows. So it needs no more room than that: with so much room it never counts as endless,
unless a provider itself says so. The provider of `include` does not, over any files. Hence neither
the diagnosis of an open document nor an attempt that has room for its limit counts as endless, even
if files include each other in a circle.

## Main definitions

* `Machine.Ends` — how the expansion of a document ends, whatever calls are answered with

## Main results

* `Machine.ends` — every expansion under a limit ends so
* `Expander.expand_standard_ne_endless`, `FileTree.diagnose_ne_endless`,
  `Options.attempt_ne_endless` — what does not count as endless over files
* `Machine.limited_ends` — these together, and that the machine is what expansion comes to
-/

namespace Transclude

open Machine

/-- However calls are answered, no run of the expansion of a document goes on for ever; calls nest
no deeper than the limit allows; where nothing happens next, there are passages or a failure; and
what breaks off the run is what a call was answered with. -/
structure Machine.Ends (limit : Int) (answers : Answers) (d : Document) : Prop where
  halts : Halts limit answers (start d)
  nesting {state} (h : Reaches limit answers (start d) state) :
    state.around.length ≤ limit.toNat
  outcome {state} (h : Reaches limit answers (start d) state) (hstuck : Stuck limit answers state) :
    ∃ outcome, state = ended outcome
  brokenOff {abort} (h : Reaches limit answers (start d) (ended (.error (.aborted abort)))) :
    ∃ c, answers c (.error (.aborted abort))

variable {e : Expander} {files : FileTree} {limit : Int} {capacity room : Nat} {d : Document}
variable {abort : Abort} {severity : Severity} {failure : Failure CompilationError}

/-- Whatever calls are answered with, an expansion under a limit ends. -/
theorem Machine.ends {answers : Answers} (hanswers : ∀ c, ∃ answer, answers c answer)
    (limit : Int) (d : Document) : Ends limit answers d where
  halts := (wellFounded_step limit answers).apply (start d)
  nesting h := h.length_around_le
  outcome _ hstuck := exists_ended_of_stuck hanswers hstuck
  brokenOff h := h.exists_answer_of_aborted

/-- With room for the limit, an expansion is broken off only by a call. -/
theorem Expander.exists_dispatch_of_expand_aborted (hcapacity : limit ≤ capacity)
    (h : (e.expand (some limit) capacity d).result = .error (.aborted abort)) :
    ∃ c, (e.dispatch c).result = .error (.aborted abort) := by
  have hreaches := e.reaches_ended hcapacity d
  rw [h] at hreaches
  exact hreaches.exists_answer_of_aborted

/-- With room for the limit, no expansion over files counts as endless. -/
theorem Expander.expand_standard_ne_endless (hregistry : e.registry = .standard files)
    (hcapacity : limit ≤ capacity) (d : Document) :
    (e.expand (some limit) capacity d).result ≠ .error (.aborted .endless) := by
  intro h
  obtain ⟨c, hdispatch⟩ := exists_dispatch_of_expand_aborted hcapacity h
  exact (isOfInclusion_of_dispatch hregistry hdispatch).map_ne_endless id rfl

/-- A failure that does not count as endless becomes none that does. -/
theorem Diagnostic.ofFailure_ne_endless (h : failure ≠ .aborted .endless) :
    Diagnostic.ofFailure severity failure ≠ .error .endless := by
  cases failure with
  | aborted abort => simpa [ofFailure] using h
  | reported error =>
    intro hend
    obtain hdiagnostic | ⟨_, -, hend⟩ := bind_eq_error_iff.mp hend
    · obtain ⟨_, _, hrange⟩ := exists_outOfRange_of_ofError hdiagnostic
      cases hrange
    · cases hend

/-- No diagnosis counts as endless. -/
theorem FileTree.diagnose_ne_endless (files : FileTree) (path : Path) (text : String) :
    files.diagnose path text ≠ .error .endless := by
  unfold diagnose
  cases hparse : Document.parse text path with
  | error failure =>
    apply Diagnostic.ofFailure_ne_endless
    rintro rfl
    obtain ⟨_, habort⟩ := Document.abort_of_parse hparse
    cases habort
  | ok d =>
    dsimp only
    split
    · rename_i failure hexpand
      apply Diagnostic.ofFailure_ne_endless
      rintro rfl
      exact Expander.expand_standard_ne_endless rfl (by decide) d hexpand
    · simp

/-- An attempt that has room for its limit does not count as endless. -/
theorem Options.attempt_ne_endless {o : Options} {n : Nat} (hlimit : o.maxDepth = some n)
    (hroom : n ≤ room) : (o.attempt room files).result ≠ .error (.aborted .endless) := by
  intro h
  cases breaksOff_of_attempt h with
  | endless hread hparse hexpand =>
    rw [hlimit] at hexpand
    exact Expander.expand_standard_ne_endless rfl (Int.ofNat_le.mpr hroom) _ hexpand

/-- **A limit makes every expansion end.** However calls are answered, the expansion of every
document under every limit ends, with calls nested no deeper than the limit allows; a negative limit
counts as zero. With room for the limit, what a document is expanded to is what this comes to and
nothing else, and it does not count as endless unless a call is answered so. No call is over files;
so neither does a diagnosis count as endless, nor an attempt with room for its limit. -/
theorem Machine.limited_ends {answers : Answers} (hanswers : ∀ c, ∃ answer, answers c answer)
    (limit : Int) :
    (∀ d, Ends limit answers d) ∧
    (∀ (e : Expander) (d : Document) (capacity : Nat), limit ≤ capacity →
      (∀ state, Reaches limit e.answers (start d) state ∧ Stuck limit e.answers state ↔
        state = ended (e.expand (some limit) capacity d).result) ∧
      ((e.expand (some limit) capacity d).result = .error (.aborted .endless) →
        ∃ c, (e.dispatch c).result = .error (.aborted .endless))) ∧
    (∀ (files : FileTree) (strict : Bool) (d : Document) (capacity : Nat), limit ≤ capacity →
      ((⟨.standard files, strict⟩ : Expander).expand (some limit) capacity d).result ≠
        .error (.aborted .endless)) ∧
    (∀ (files : FileTree) (path : Path) (text : String),
      files.diagnose path text ≠ .error .endless) ∧
    ∀ (o : Options) (room : Nat) (files : FileTree) (n : Nat), o.maxDepth = some n → n ≤ room →
      (o.attempt room files).result ≠ .error (.aborted .endless) := by
  refine ⟨Machine.ends hanswers limit, ?_, ?_, FileTree.diagnose_ne_endless, ?_⟩
  · intro e d capacity hcapacity
    exact ⟨e.reaches_and_stuck_iff hcapacity d, e.exists_dispatch_of_expand_aborted hcapacity⟩
  · intro files strict d capacity hcapacity
    exact Expander.expand_standard_ne_endless rfl hcapacity d
  · intro o room files n hlimit hroom
    exact o.attempt_ne_endless hlimit hroom

/-- Answers that never become less: a call itself, twice, or one of a function not met before. -/
def selfServing : Answers := fun c answer =>
  answer = .ok ⟨[.call c, .call c]⟩ ∨
    answer = .ok ⟨[.call { c with function := c.function ++ "s" }]⟩

/-- Even with such answers an expansion ends, though calls nest as deep as the limit allows. -/
theorem Machine.limited_ends_selfServing :
    (∀ c, ∃ answer, selfServing c answer) ∧
      Ends 2 selfServing ⟨[.call (.bare "f")]⟩ ∧
      ∃ state, Reaches 2 selfServing (start ⟨[.call (.bare "f")]⟩) state ∧
        state.around.length = 2 := by
  have hanswers (c : Call) : ∃ answer, selfServing c answer := ⟨_, .inl rfl⟩
  refine ⟨hanswers, (limited_ends hanswers 2).1 _, ?_⟩
  have houter : Step 2 selfServing (start ⟨[.call (.bare "f")]⟩) _ :=
    .enter (by decide) (.inl rfl)
  exact ⟨_, .head houter (.single (.enter (by decide) (.inr rfl))), rfl⟩

end Transclude
