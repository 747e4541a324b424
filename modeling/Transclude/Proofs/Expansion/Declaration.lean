import Transclude.Proofs.Expansion.Checking
import Transclude.Proofs.Expansion.Inclusion

/-!
# What `include` declares

The function `include` declares that it takes one path, and it looks at its arguments by itself as
well. Both turn away the same calls, the one before a provider is asked and the other one when it
is. So with the standard registry it makes no difference to the outcome of an expansion whether
arguments are checked against signatures, except for the words in which it is told that they do not
fit.

## Main definitions

* `AlikeButForReason` — two outcomes are the same, except for the reason why arguments do not fit

## Main results

* `mem_includeSignatures_iff` — the arguments that the declared signature fits
* `Registry.turnsAway_standard_iff` — the calls that the check turns away
* `Expander.span_ne_none_of_nests` — a call without a place stands in the document that is expanded
* `Registry.StoppedByCheck.exists_reason`, `Registry.StoppedByCheck.of_unplaced` — what becomes,
  without the check, of a call that the check stops at
* `Registry.expand_standard_checked` — expansions over files, with the check and without it
-/

namespace Transclude

open Expander

/-- The outcomes are the same, or both are the error that arguments do not fit, with the same trace
and each with its own reason. -/
def AlikeButForReason (outcome outcome' : Except (Failure CompilationError) (List Passage)) :
    Prop :=
  outcome' = outcome ∨ ∃ reason reason' trace,
    outcome = .error (.reported (.simple (.invalidArguments reason) trace)) ∧
    outcome' = .error (.reported (.simple (.invalidArguments reason') trace))

variable {files : FileTree} {e : Expander} {limit : Option Int} {capacity : Nat} {d : Document}
variable {nodes : List Node} {around : List Call} {c : Call} {arguments : List Value}

/-- The signature that `include` declares fits one path and nothing else. -/
theorem mem_includeSignatures_iff :
    arguments.map Value.kind ∈ includeDescriptor.signatures ↔
      ∃ path, arguments = [.path path] := by
  rw [includeDescriptor, List.mem_singleton]
  constructor
  · intro h
    match arguments, h with
    | [.path path], _ => exact ⟨path, rfl⟩
  · rintro ⟨path, rfl⟩
    rfl

namespace Registry

/-- The check turns away the calls of `include` with other arguments than one path. -/
theorem turnsAway_standard_iff :
    (standard files).TurnsAway c ↔
      c.function = includeDescriptor.name ∧ ¬ ∃ path, c.arguments = [.path path] := by
  rw [← mem_includeSignatures_iff]
  constructor
  · rintro ⟨index, provider, descriptor, hfind, hkinds⟩
    obtain ⟨hfunction, -, rfl⟩ := eq_of_find_standard hfind
    exact ⟨hfunction, hkinds⟩
  · rintro ⟨hfunction, hkinds⟩
    exact ⟨0, .ofFiles files, includeDescriptor, by rw [find_standard, if_pos hfunction], hkinds⟩

/-- A call that the check turns away is turned away without it as well, by its provider, unless it
has no place. -/
theorem TurnsAway.dispatch_unchecked (h : (standard files).TurnsAway c) :
    ((standard files).expander.dispatch c).result =
      .error (if c.span = none then .aborted .unplacedNode else Call.argumentFailure) := by
  obtain ⟨hfunction, hpath⟩ := turnsAway_standard_iff.mp h
  have hrefusal : c.refusal? false =
      some (if c.span = none then .aborted .unplacedNode else Call.argumentFailure) := by
    by_cases hspan : c.span = none <;>
      simp [Call.refusal?, hfunction, hspan, Call.argumentRefusal?_of_not_path hpath]
  obtain ⟨failure, hfailure, hresult⟩ | ⟨_, hnone, -⟩ :=
    dispatch_standard (e := (standard files).expander) rfl c
  · cases hfailure.symm.trans hrefusal
    exact hresult
  · cases hnone.symm.trans hrefusal

end Registry

/-- With the standard registry, a call that has no place is not nested in any other one. -/
theorem Expander.span_ne_none_of_nests (hregistry : e.registry = .standard files)
    (h : e.Nests nodes (around ++ [c])) :
    c.span ≠ none ∨ around = [] ∧ .call c ∈ nodes := by
  induction around generalizing nodes with
  | nil => exact .inr ⟨rfl, (nests_cons.mp h).1⟩
  | cons outer around ih =>
    obtain ⟨-, hinner⟩ := nests_cons.mp h
    obtain hspan | ⟨-, hmem⟩ := ih hinner
    · exact .inl hspan
    · -- The call stands in a file that was read.
      obtain ⟨produced, hproduced, hmem⟩ := mem_producedNodes_iff.mp hmem
      obtain ⟨_, _, -, -, -, hparse⟩ := exists_asksFor_of_dispatch hregistry hproduced
      exact .inl (Document.span_ne_none_of_parse hparse hmem)

namespace Registry

/-- If the check stops an expansion over files, the expansion stops at the same call without it. -/
theorem StoppedByCheck.exists_stopsAt
    (h : (standard files).StoppedByCheck limit capacity d around c) :
    ∃ events, (standard files).expander.StopsAt (initialRoom limit capacity) d.nodes events around c
      (.failed (if c.span = none then .aborted .unplacedNode else Call.argumentFailure)) := by
  obtain ⟨before, hcomes, -⟩ := h.exists_front
  obtain ⟨hturned, events, failure, hstops⟩ := h
  exact hcomes.exists_stopsAt hstops.length_around_lt hturned.dispatch_unchecked

/-- A call with a place is then reported in the same way, for the provider's reason. -/
theorem StoppedByCheck.exists_reason (h : (standard files).StoppedByCheck limit capacity d around c)
    (hspan : c.span ≠ none) :
    ∃ reason, ((standard files).expander.expand limit capacity d).result =
      .error (.reported (.simple (.invalidArguments reason)
        ⟨some ⟨c.origin, c.span, ""⟩, around.reverse⟩)) := by
  obtain ⟨events, hstops⟩ := h.exists_stopsAt
  rw [if_neg hspan] at hstops
  exact ⟨_, by rw [hstops.expand_of_fault]⟩

/-- A call without a place is one of the document, and breaks off the run. -/
theorem StoppedByCheck.of_unplaced (h : (standard files).StoppedByCheck limit capacity d around c)
    (hspan : c.span = none) :
    around = [] ∧ .call c ∈ d.nodes ∧
      ((standard files).expander.expand limit capacity d).result =
        .error (.aborted .unplacedNode) := by
  obtain ⟨events, hstops⟩ := h.exists_stopsAt
  obtain hplaced | ⟨haround, hmem⟩ := span_ne_none_of_nests rfl hstops.nests
  · exact absurd hspan hplaced
  refine ⟨haround, hmem, ?_⟩
  rw [expand_eq_expandNodes, hstops.expandNodes_eq, if_pos hspan]
  rfl

/-- **What `include` declares is what it checks.** Whether the arguments of calls are checked
against signatures makes no difference to the outcome of an expansion over files, for a document of
which every node has a place: the passages are the same, or the failure is, except that arguments
which do not fit may be told of in other words. It makes a difference only to a call of the document
that has no place and does not fit, which is turned away with the check and breaks off the run
without it. -/
theorem expand_standard_checked (files : FileTree) (limit : Option Int) (capacity : Nat)
    (d : Document) :
    let checked := ((standard files).checkingExpander.expand limit capacity d).result
    let unchecked := ((standard files).expander.expand limit capacity d).result
    (d.isPlaced = true → AlikeButForReason checked unchecked) ∧
      (AlikeButForReason checked unchecked ∨ ∃ c, .call c ∈ d.nodes ∧ c.span = none ∧
        checked =
          .error (.reported (.simple (.noSignature c.function) ⟨some ⟨c.origin, none, ""⟩, []⟩)) ∧
        unchecked = .error (.aborted .unplacedNode)) := by
  intro checked unchecked
  refine (and_iff_right_of_imp fun hcases hplaced => ?_).mpr ?_
  · -- A document of which every node has a place has no call without one.
    obtain halike | ⟨c, hmem, hspan, -, -⟩ := hcases
    · exact halike
    have hsome : (Node.call c).span.isSome = true := List.all_eq_true.mp hplaced _ hmem
    simp [Node.span, hspan] at hsome
  · by_cases hstopped : ∃ around c, (standard files).StoppedByCheck limit capacity d around c
    · obtain ⟨around, c, h⟩ := hstopped
      have hchecked := h.expand_eq
      by_cases hspan : c.span = none
      · obtain ⟨rfl, hmem, hunchecked⟩ := h.of_unplaced hspan
        rw [hspan] at hchecked
        exact .inr ⟨c, hmem, hspan, hchecked, hunchecked⟩
      · obtain ⟨reason, hunchecked⟩ := h.exists_reason hspan
        exact .inl (.inr ⟨_, reason, _, hchecked, hunchecked⟩)
    · -- The check stops nothing, so all calls go the same way.
      have hsame := (standard files).extends_expander.expand_eq
        (fun _ => dispatch_expander_of_not_turnsAway) hstopped
      exact .inl (.inl (congrArg Run.result hsame))

/-- A file that includes something else than a path, in a directory. -/
def numberedFiles : FileTree where
  workingDirectory := []
  clock := 0
  pathLimit := none
  entries := [
    ([], .directory 0),
    (["docs"], .directory 0),
    (["docs", "a.md"], .file (Utf8.encode "A\n\x7b\x7binclude(7)\x7d\x7d") 0)]

/-- The call that includes this file. -/
def numberedCall : Call :=
  ⟨"include", [.path (Path.parse "docs/a.md")], Path.parse "input.md",
    some ⟨⟨1, 1, 0⟩, ⟨1, 25, 24⟩⟩⟩

/-- The place of the call in the file. -/
def numberedTrace : Trace :=
  ⟨some ⟨Path.parse "docs/a.md", some ⟨⟨2, 1, 2⟩, ⟨2, 15, 16⟩⟩, ""⟩, [numberedCall]⟩

/-- The call in the file is turned away with the check and without it, with the same trace and in
different words. -/
theorem expand_standard_checked_numbered :
    (⟨[.call numberedCall]⟩ : Document).isPlaced = true ∧
      ((standard numberedFiles).checkingExpander.expand none 4 ⟨[.call numberedCall]⟩).result =
        .error (.reported (.simple (.noSignature "include") numberedTrace)) ∧
      ((standard numberedFiles).expander.expand none 4 ⟨[.call numberedCall]⟩).result ≠
        .error (.reported (.simple (.noSignature "include") numberedTrace)) ∧
      ∃ reason, ((standard numberedFiles).expander.expand none 4 ⟨[.call numberedCall]⟩).result =
        .error (.reported (.simple (.invalidArguments reason) numberedTrace)) := by
  have hplaced : (⟨[.call numberedCall]⟩ : Document).isPlaced = true := rfl
  have hchecked :
      ((standard numberedFiles).checkingExpander.expand none 4 ⟨[.call numberedCall]⟩).result =
        .error (.reported (.simple (.noSignature "include") numberedTrace)) := by
    decide +kernel
  have hdiffers :
      ((standard numberedFiles).expander.expand none 4 ⟨[.call numberedCall]⟩).result ≠
        .error (.reported (.simple (.noSignature "include") numberedTrace)) := by
    decide +kernel
  refine ⟨hplaced, hchecked, hdiffers, ?_⟩
  obtain ⟨halike, -⟩ := expand_standard_checked numberedFiles none 4 ⟨[.call numberedCall]⟩
  obtain hsame | ⟨reason, reason', trace, hreason, hreason'⟩ := halike hplaced
  · exact absurd (hsame.trans hchecked) hdiffers
  · cases hchecked.symm.trans hreason
    exact ⟨reason', hreason'⟩

end Registry

end Transclude
