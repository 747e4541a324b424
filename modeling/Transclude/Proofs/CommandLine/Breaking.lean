import Transclude.CommandLine.Attempt
import Transclude.Proofs.Expansion.Exhaustion
import Transclude.Proofs.Expansion.Including
import Transclude.Proofs.Provenance
import Transclude.Proofs.CommandLine.Once

/-!
# What breaks off an attempt

An attempt succeeds, reports an error, or is broken off. It is broken off only by a file that it
needs, which is the input or a file that including leads to, or by expansion without end; and only
by two things about such a file: its path holds a null character, so that nobody can be asked for
it, or a number in it has too many digits. A call never lacks its place, and no call is left over.

## Main definitions

* `Options.Needs` — the input, and what calls in the files that including leads to ask for
* `Options.BreaksOff` — what an attempt can be broken off by
* `Options.Unanswered` — what nobody answers for in an attempt and in writing what it comes to

## Main results

* `Expander.StopsAt.exists_reaches` — an expansion stops in the source or in a file that is reached
* `Options.breaksOff_of_attempt` — nothing else breaks off an attempt
-/

namespace Transclude

/-- A call is turned away without an error only if it has no place. -/
theorem Call.span_eq_none_of_refusal {c : Call} {strict : Bool} {abort : Abort}
    (h : c.refusal? strict = some (.aborted abort)) : c.span = none := by
  unfold refusal? at h
  split at h
  · cases h
  split at h
  · cases h
  split at h
  · assumption
  · unfold argumentRefusal? at h
    split at h <;> cases h

namespace Expander

variable {e : Expander} {files : FileTree} {source text : String} {origin path : Path}
variable {room : Nat} {nodes : List Node} {events : List Event} {around : List Call} {c : Call}
variable {d : Document} {stop : Stop} {abort : Abort}

/-- Without room left there is an error to report if a limit counts, and no end otherwise. -/
theorem exhaustion_eq_endless_or (limit : Option Int) (capacity : Nat) :
    exhaustion limit capacity = .aborted .endless ∨
      ∃ error, exhaustion limit capacity = .reported error := by
  unfold exhaustion
  split
  · exact .inl rfl
  split
  · exact .inr ⟨_, rfl⟩
  · exact .inl rfl

/-- Where an expansion stops there is a call of the source, or of a file that including leads to. -/
theorem StopsAt.exists_reaches (hregistry : e.registry = .standard files)
    (h : e.StopsAt room nodes events around c stop)
    (hreaches : files.Reaches source origin text path)
    (hparse : Document.parse text path = .ok d) (hnodes : nodes ⊆ d.nodes) :
    ∃ text path d, files.Reaches source origin text path ∧
      Document.parse text path = .ok d ∧ .call c ∈ d.nodes := by
  induction h generalizing text path d with
  | exhausted => exact ⟨text, path, d, hreaches, hparse, hnodes List.mem_cons_self⟩
  | failed _ => exact ⟨text, path, d, hreaches, hparse, hnodes List.mem_cons_self⟩
  | within hdispatch _ ih =>
    obtain ⟨included, next, -, hnext, -, -, hproduced⟩ :=
      exists_reaches_of_dispatch hregistry hreaches hparse (hnodes List.mem_cons_self)
        (congrArg Run.result hdispatch)
    exact ih hnext hproduced (List.Subset.refl _)
  | behindText _ ih => exact ih hreaches hparse (List.cons_subset.mp hnodes).2
  | behindCall _ _ _ ih => exact ih hreaches hparse (List.cons_subset.mp hnodes).2

/-- A call that has a place breaks off the run only for the file that it asks for. -/
theorem exists_asksFor_of_dispatch_aborted (hregistry : e.registry = .standard files)
    (hspan : c.span ≠ none) (h : (e.dispatch c).result = .error (.aborted abort)) :
    ∃ path, c.AsksFor path ∧ files.includedDocument path = .error (.aborted abort) := by
  obtain ⟨failure, hrefusal, hresult⟩ | ⟨path, -, hasks, -, hresult⟩ :=
    dispatch_standard hregistry c
  · rw [h] at hresult
    cases hresult
    exact absurd (Call.span_eq_none_of_refusal hrefusal) hspan
  · exact ⟨path, hasks, hresult.symm.trans h⟩

end Expander

namespace Options

/-- The attempt needs the file at a path: it is the input, or a call asks for it in the input or in
a file that including leads to from there. -/
inductive Needs (o : Options) (files : FileTree) : Path → Prop
  | input : o.Needs files o.inputFile
  | included {source text origin d c path} (hread : files.readSource o.inputFile = .ok source)
      (hreaches : files.Reaches source o.inputFile text origin)
      (hparse : Document.parse text origin = .ok d) (hcall : .call c ∈ d.nodes)
      (hasks : c.AsksFor path) : o.Needs files path

/-- What an attempt can be broken off by. -/
inductive BreaksOff (o : Options) (room : Nat) (files : FileTree) : Abort → Prop
  /-- Nobody can be asked for a path that is needed. -/
  | path {path} (hneeds : o.Needs files path) (hnul : FileTree.hasNul path = true) :
      o.BreaksOff room files (.inaccessible path .nulInPath)
  /-- A number in a file that is needed has too many digits. -/
  | number {path text digits} (hneeds : o.Needs files path)
      (hread : files.readSource path = .ok text)
      (hparse : Document.parse text path = .error (.aborted (.oversizedNumeral digits))) :
      o.BreaksOff room files (.oversizedNumeral digits)
  /-- The expansion runs out of room, as one without end does. -/
  | endless {text d} (hread : files.readSource o.inputFile = .ok text)
      (hparse : Document.parse text o.inputFile = .ok d)
      (hexpand : ((o.expander files).expand (o.maxDepth.map Int.ofNat) room d).result =
        .error (.aborted .endless)) :
      o.BreaksOff room files .endless

/-- What nobody answers for in an attempt and in writing what it comes to, save that the expansion
may not end. -/
inductive Unanswered (o : Options) (room : Nat) (files : FileTree) : Abort → Prop
  /-- The input, or a file that including leads to, breaks off the attempt. -/
  | brokenOff {abort} (hresult : (o.attempt room files).result = .error (.aborted abort))
      (hbreaks : o.BreaksOff room files abort) (hother : abort ≠ .endless) :
      o.Unanswered room files abort
  /-- The text is there and cannot be written. -/
  | unwritten {text fault} (hresult : (o.attempt room files).result = .ok text)
      (hwrite : files.write o.outputFile (Utf8.encode text) = .error fault) :
      o.Unanswered room files (.inaccessible o.outputFile fault)

variable {o : Options} {room : Nat} {files : FileTree} {text : String} {d : Document}
variable {path : Path} {abort : Abort}

/-- What is needed breaks off the attempt where it is included. -/
theorem BreaksOff.of_includedDocument (hneeds : o.Needs files path)
    (h : files.includedDocument path = .error (.aborted abort)) : o.BreaksOff room files abort := by
  obtain ⟨hnul, rfl⟩ | ⟨text, digits, hread, hparse, rfl⟩ :=
    FileTree.eq_of_includedDocument_aborted h
  · exact .path hneeds hnul
  · exact .number hneeds hread hparse

/-- Nothing else breaks off the expansion of the input. -/
theorem breaksOff_of_expand (hread : files.readSource o.inputFile = .ok text)
    (hparse : Document.parse text o.inputFile = .ok d)
    (h : ((o.expander files).expand (o.maxDepth.map Int.ofNat) room d).result =
      .error (.aborted abort)) : o.BreaksOff room files abort := by
  have hexpand := h
  generalize hlimit : o.maxDepth.map Int.ofNat = limit at h
  obtain ⟨_, _, -, hrun⟩ | ⟨_, around, c, stop, hstops, hrun⟩ :=
    (o.expander files).expand_cases limit room d
  · rw [hrun] at h
    cases h
  rw [hrun] at h
  cases stop with
  | exhausted =>
    rw [Stop.failure] at h
    obtain hendless | ⟨_, hreported⟩ := Expander.exhaustion_eq_endless_or limit room
    · rw [hendless] at h
      cases h
      exact .endless hread hparse hexpand
    · rw [hreported] at h
      cases h
  | failed failure =>
    cases failure with
    | reported _ => cases h
    | aborted other =>
      cases h
      obtain ⟨text', origin, d', hreaches, hparse', hcall⟩ :=
        hstops.exists_reaches rfl .start hparse (List.Subset.refl _)
      obtain ⟨path, hasks, hincluded⟩ := Expander.exists_asksFor_of_dispatch_aborted rfl
        (Document.span_ne_none_of_parse hparse' hcall) hstops.dispatch_eq
      exact .of_includedDocument (.included hread hreaches hparse' hcall hasks) hincluded

/-- Nothing else breaks off an attempt. -/
theorem breaksOff_of_attempt (h : (o.attempt room files).result = .error (.aborted abort)) :
    o.BreaksOff room files abort := by
  have hattempts := o.attempts_attempt room files
  rw [h] at hattempts
  generalize hresult : (Except.error (.aborted abort) : Except (Failure CompilationError) String) =
    result at hattempts
  cases hattempts with
  | @unread fault hread =>
    obtain ⟨hnul, rfl⟩ :=
      FileTree.eq_of_readSource_failure hread (Except.error.inj hresult).symm
    exact .path .input hnul
  | misspelled hread hparse =>
    cases hresult
    obtain ⟨digits, rfl⟩ := Document.abort_of_parse hparse
    exact .number .input hread hparse
  | stopped hread hparse hexpand =>
    cases hresult
    exact breaksOff_of_expand hread hparse hexpand
  | compiled _ _ _ => cases hresult

end Options

end Transclude
