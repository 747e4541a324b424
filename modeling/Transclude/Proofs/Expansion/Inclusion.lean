import Transclude.Proofs.Expansion.Dispatch
import Transclude.Proofs.Splitting.Misspelling
import Transclude.Provider.Include

/-!
# Calls of the standard registry

The standard registry exposes `include` alone. A call is turned away for reasons that its function,
its arguments and its having a place tell, or else it asks for one file: the one that its argument
leads to from the directory of the calling document. What it produces then is the document that this
file spells. A call that fails says nothing of the place: its error is not located yet.

## Main definitions

* `Node.origin`, `Node.withOrigin` — the file that a node comes from, and the node of another file
* `Call.Includes` — a call comes from the file that another one includes
* `Call.AsksFor` — a call includes the file at a path
* `Call.refusal?` — why a call is turned away before any file is asked for
* `Failure.IsOfInclusion` — the failures that calls of the standard registry end with

## Main results

* `Document.origin_of_parse` — all nodes of a document come from the file that it is read from
* `Document.parse_withOrigin` — a source spells the same in every file
* `Expander.dispatch_standard` — a call is turned away or produces what it includes
* `Expander.dispatch_standard_congr` — calls that are spelled alike go the same way
* `Expander.includes_of_dispatch` — what a call produces comes from the file it includes
* `Expander.isOfInclusion_of_dispatch`, `Expander.trace_of_dispatch` — how a call of the standard
  registry fails; an error that it reports is not located
-/

namespace Transclude

/-- The file that a node comes from. -/
def Node.origin : Node → Path
  | .text t => t.origin
  | .call c => c.origin

/-- The node as it would be in another file. -/
def Node.withOrigin (origin : Path) : Node → Node
  | .text t => .text { t with origin }
  | .call c => .call { c with origin }

namespace Call

/-- The call `inner` comes from the file that `outer` includes. -/
def Includes (outer inner : Call) : Prop :=
  ∃ path, outer.arguments = [.path path] ∧ inner.origin = outer.origin.parent.join path

/-- The call includes the file at the path: the path is its argument, seen from the directory of the
file that the call comes from. -/
def AsksFor (c : Call) (path : Path) : Prop :=
  c.function = includeDescriptor.name ∧
    ∃ argument, c.arguments = [.path argument] ∧ path = c.origin.parent.join argument

/-- What a call of `include` is told whose arguments are not one path. -/
def argumentFailure : Failure CompilationError :=
  .reported (.ofFault (.invalidArguments "include expects a single path argument"))

/-- Why the arguments of a call of `include` are turned away, if they are. -/
def argumentRefusal? : List Value → Option (Failure CompilationError)
  | [.path _] => none
  | _ => some argumentFailure

/-- Why a call is turned away before any file is asked for, if it is. -/
def refusal? (c : Call) (strict : Bool) : Option (Failure CompilationError) :=
  if c.function ≠ includeDescriptor.name then
    some (.reported (.ofFault (.functionNotFound c.function)))
  else if (!strict || includeDescriptor.accepts c.arguments) = false then
    some (.reported (.ofFault (.noSignature c.function)))
  else if c.span = none then some (.aborted .unplacedNode)
  else argumentRefusal? c.arguments

theorem argumentRefusal?_of_not_path {arguments : List Value}
    (h : ¬ ∃ argument, arguments = [.path argument]) :
    argumentRefusal? arguments = some argumentFailure := by
  unfold argumentRefusal?
  split
  · exact absurd ⟨_, rfl⟩ h
  · rfl

/-- Whether a call is turned away is told by the call without the file that it comes from. -/
theorem refusal?_congr {c c' : Call} (hfunction : c'.function = c.function)
    (harguments : c'.arguments = c.arguments) (hspan : c'.span = c.span) (strict : Bool) :
    c'.refusal? strict = c.refusal? strict := by
  simp only [refusal?, hfunction, harguments, hspan]

theorem AsksFor.eq {c : Call} {path path' : Path} (h : c.AsksFor path) (h' : c.AsksFor path') :
    path = path' := by
  obtain ⟨-, argument, hargument, rfl⟩ := h
  obtain ⟨-, argument', hargument', rfl⟩ := h'
  cases hargument.symm.trans hargument'
  rfl

end Call

/-- The failures that calls of the standard registry end with, before an error escapes. -/
inductive Failure.IsOfInclusion : Failure CompilationError → Prop
  | functionNotFound (name : String) :
      IsOfInclusion (.reported (.ofFault (.functionNotFound name)))
  | invalidArguments (reason : String) :
      IsOfInclusion (.reported (.ofFault (.invalidArguments reason)))
  | external (reason : String) : IsOfInclusion (.reported (.ofFault (.external reason)))
  | nested (cause : CompilationError) : IsOfInclusion (.reported (.ofCause cause))
  | unplaced : IsOfInclusion (.aborted .unplacedNode)
  | inaccessible (path : Path) : IsOfInclusion (.aborted (.inaccessible path .nulInPath))
  | oversizedNumeral (digits : Nat) : IsOfInclusion (.aborted (.oversizedNumeral digits))

theorem Piece.origin_of_read {origin : Path} {source : String} {piece : Piece} {node : Node}
    (h : piece.read origin source = .ok node) : node.origin = origin := by
  cases piece with
  | text content span =>
    cases h
    rfl
  | call body span =>
    obtain ⟨_, -, rfl⟩ := Piece.read_call_eq_ok_iff.mp h
    rfl

/-- All nodes of a document come from the file that it is read from. -/
theorem Document.origin_of_parse {source : String} {origin : Path} {d : Document}
    (h : Document.parse source origin = .ok d) : ∀ node ∈ d.nodes, node.origin = origin := by
  intro node hnode
  obtain ⟨piece, -, hread⟩ := (parse_eq_ok_iff.mp h).exists_of_mem hnode
  exact piece.origin_of_read hread

/-- A call that is read has a place. -/
theorem Document.span_ne_none_of_parse {source : String} {origin : Path} {d : Document} {c : Call}
    (h : Document.parse source origin = .ok d) (hcall : .call c ∈ d.nodes) : c.span ≠ none := by
  obtain ⟨piece, -, hread⟩ := (parse_eq_ok_iff.mp h).exists_of_mem hcall
  cases piece with
  | text _ _ => cases hread
  | call body span =>
    obtain ⟨invocation, -, hnode⟩ := Piece.read_call_eq_ok_iff.mp hread
    cases hnode
    simp

theorem Piece.read_withOrigin {origin : Path} {source : String} {piece : Piece} {node : Node}
    (h : piece.read origin source = .ok node) (origin' : Path) :
    piece.read origin' source = .ok (node.withOrigin origin') := by
  cases piece with
  | text content span =>
    cases h
    rfl
  | call body span =>
    obtain ⟨invocation, hbody, rfl⟩ := Piece.read_call_eq_ok_iff.mp h
    exact Piece.read_call_eq_ok_iff.mpr ⟨invocation, hbody, rfl⟩

/-- A source spells the same nodes in every file, but that they come from there. -/
theorem Document.parse_withOrigin {source : String} {origin : Path} {d : Document}
    (h : Document.parse source origin = .ok d) (origin' : Path) :
    Document.parse source origin' = .ok ⟨d.nodes.map (Node.withOrigin origin')⟩ := by
  rw [parse_eq_ok_iff, Piece.Reads, List.forall₂_map_right_iff]
  apply List.Forall₂.imp _ (parse_eq_ok_iff.mp h)
  intro piece node hread
  exact piece.read_withOrigin hread origin'

namespace Failure.IsOfInclusion

variable {error : CompilationError} {failure : Failure CompilationError}

theorem trace_eq (h : (reported error).IsOfInclusion) : error.trace = .unknown := by
  cases h <;> rfl

theorem category_eq (h : (reported error).IsOfInclusion) : error.category = .provider := by
  cases h <;> rfl

/-- Wherever it escapes from, such a failure does not count as endless. -/
theorem map_ne_endless (h : failure.IsOfInclusion) (f : CompilationError → CompilationError) :
    failure.map f ≠ .aborted .endless := by
  cases h <;> simp

/-- Wherever it escapes from, such a failure is not that a limit is exceeded. -/
theorem map_escapeFrom_ne_depthExceeded (h : failure.IsOfInclusion) (calls : List Call)
    (limit : Int) (trace : Trace) :
    failure.map (calls.foldr CompilationError.escapeFrom) ≠
      .reported (.simple (.depthExceeded limit) trace) := by
  cases failure with
  | aborted _ => simp
  | reported error =>
    obtain ⟨_, hescaped⟩ := error.exists_foldr_escapeFrom_eq calls
    rw [map_reported, hescaped]
    cases h <;>
      simp [CompilationError.ofFault, CompilationError.ofCause, CompilationError.withTrace]

end Failure.IsOfInclusion

/-- A call is turned away because its function is not known, or for its arguments, or because it has
no place. -/
theorem Call.eq_of_refusal {c : Call} {strict : Bool} {failure : Failure CompilationError}
    (h : c.refusal? strict = some failure) :
    (∃ name, failure = .reported (.ofFault (.functionNotFound name))) ∨
      (∃ reason, failure = .reported (.ofFault (.invalidArguments reason))) ∨
      failure = .aborted .unplacedNode := by
  unfold refusal? at h
  split at h
  · exact .inl ⟨_, (Option.some.inj h).symm⟩
  split at h
  · exact .inr (.inl ⟨_, (Option.some.inj h).symm⟩)
  split at h
  · exact .inr (.inr (Option.some.inj h).symm)
  unfold argumentRefusal? at h
  split at h
  · cases h
  · exact .inr (.inl ⟨_, (Option.some.inj h).symm⟩)

theorem Call.isOfInclusion_of_refusal {c : Call} {strict : Bool}
    {failure : Failure CompilationError} (h : c.refusal? strict = some failure) :
    failure.IsOfInclusion := by
  obtain ⟨name, rfl⟩ | ⟨reason, rfl⟩ | rfl := c.eq_of_refusal h
  · exact .functionNotFound name
  · exact .invalidArguments reason
  · exact .unplaced

/-- A file that cannot be read is an external fault, unless its path cannot even be asked for. -/
theorem SourceFault.isOfInclusion_failure (fault : SourceFault) (path : Path)
    (tell : String → String) :
    (fault.failure path fun reason => .external (tell reason)).IsOfInclusion := by
  unfold failure
  split
  · exact .inaccessible path
  · exact .external _
  · exact .external _

namespace FileTree

variable {files : FileTree} {path directory : Path} {produced : Document}
variable {function : String} {arguments : List Value} {failure : Failure CompilationError}

/-- A document is included when the file at the path spells it. -/
theorem includedDocument_eq_ok_iff :
    files.includedDocument path = .ok produced ↔
      ∃ source, files.readSource path = .ok source ∧ Document.parse source path = .ok produced := by
  unfold includedDocument
  cases hread : files.readSource path with
  | error fault => simp
  | ok source => cases hparse : Document.parse source path <;> simp [hparse, Except.mapError]

theorem isOfInclusion_of_includedDocument (h : files.includedDocument path = .error failure) :
    failure.IsOfInclusion := by
  unfold includedDocument at h
  split at h
  · rw [← Except.error.inj h]
    exact SourceFault.isOfInclusion_failure _ _ _
  · rename_i source _
    rcases hparse : Document.parse source path with (cause | abort) | _
    · rw [hparse] at h
      cases h
      exact .nested cause
    · rw [hparse] at h
      cases h
      obtain ⟨digits, rfl⟩ := Document.abort_of_parse hparse
      exact .oversizedNumeral digits
    · rw [hparse] at h
      cases h

theorem carryOutInclude_path {argument : Path} (hfunction : function = includeDescriptor.name) :
    files.carryOutInclude function [.path argument] directory =
      ⟨[directory.join argument], files.includedDocument (directory.join argument)⟩ := by
  simp [carryOutInclude, hfunction]

theorem result_carryOutInclude_of_not_path (hfunction : function = includeDescriptor.name)
    (h : ¬ ∃ argument, arguments = [.path argument]) :
    (files.carryOutInclude function arguments directory).result = .error Call.argumentFailure := by
  unfold carryOutInclude
  rw [if_neg (not_not_intro hfunction)]
  split
  · exact absurd ⟨_, rfl⟩ h
  · rfl

end FileTree

/-- The standard registry exposes `include`, and leaves its calls to one provider. -/
theorem Registry.find_standard (files : FileTree) (function : String) :
    (Registry.standard files).find function =
      if function = includeDescriptor.name then some (0, .ofFiles files, includeDescriptor)
      else none := by
  by_cases h : function = includeDescriptor.name
  · subst h
    rfl
  · have hname : includeDescriptor.name ≠ function := Ne.symm h
    simp [find, findFrom, standard, Provider.describe, Provider.ofFiles, h, hname]

theorem Registry.eq_of_find_standard {files : FileTree} {function : String} {index : Nat}
    {provider : Provider} {descriptor : Descriptor}
    (h : (Registry.standard files).find function = some (index, provider, descriptor)) :
    function = includeDescriptor.name ∧ provider = .ofFiles files ∧
      descriptor = includeDescriptor := by
  rw [find_standard] at h
  split at h
  · rename_i hfunction
    cases h
    exact ⟨hfunction, rfl, rfl⟩
  · cases h

namespace Expander

variable {e : Expander} {files : FileTree} {c inner : Call} {produced : Document}
variable {failure : Failure CompilationError} {error : CompilationError}

/-- A call is turned away, or it asks for a file and comes to what is included from there. -/
theorem dispatch_standard (hregistry : e.registry = .standard files) (c : Call) :
    (∃ failure, c.refusal? e.strict = some failure ∧ (e.dispatch c).result = .error failure) ∨
      ∃ path, c.refusal? e.strict = none ∧ c.AsksFor path ∧
        .including path ∈ (e.dispatch c).events ∧
        (e.dispatch c).result = files.includedDocument path := by
  have hcases := e.dispatches_dispatch c
  generalize e.dispatch c = run at hcases ⊢
  cases hcases with
  | unknown hfind =>
    rw [hregistry, Registry.find_standard] at hfind
    have hfunction : c.function ≠ includeDescriptor.name := by simpa using hfind
    exact .inl ⟨_, by simp [Call.refusal?, hfunction], rfl⟩
  | turnedAway hfind hadmits =>
    rw [hregistry] at hfind
    obtain ⟨hfunction, -, rfl⟩ := Registry.eq_of_find_standard hfind
    rw [admits] at hadmits
    exact .inl ⟨_, by simp [Call.refusal?, hfunction, hadmits], rfl⟩
  | unplaced hfind hadmits hspan =>
    rw [hregistry] at hfind
    obtain ⟨hfunction, -, rfl⟩ := Registry.eq_of_find_standard hfind
    rw [admits] at hadmits
    exact .inl ⟨_, by simp [Call.refusal?, hfunction, hadmits, hspan], rfl⟩
  | carriedOut hfind hadmits hspan hinvoke =>
    rw [hregistry] at hfind
    obtain ⟨hfunction, rfl, rfl⟩ := Registry.eq_of_find_standard hfind
    rw [admits] at hadmits
    subst hinvoke
    by_cases harguments : ∃ argument, c.arguments = [.path argument]
    · obtain ⟨argument, hargument⟩ := harguments
      rw [hargument] at hadmits
      have hproduction :
          (Provider.ofFiles files).invoke c.function c.arguments c.origin.parent = _ :=
        hargument ▸ FileTree.carryOutInclude_path hfunction
      refine .inr ⟨_, ?_, ⟨hfunction, argument, hargument, rfl⟩, ?_, ?_⟩
      · simp [Call.refusal?, hfunction, hadmits, hspan, hargument, Call.argumentRefusal?]
      · simp [hproduction]
      · simp [hproduction]
    · -- The provider itself turns the arguments away.
      refine .inl ⟨_, ?_, FileTree.result_carryOutInclude_of_not_path hfunction harguments⟩
      simp [Call.refusal?, hfunction, hadmits, hspan, Call.argumentRefusal?_of_not_path harguments]

/-- Two calls that are spelled alike are both turned away, for the same reason, or both include what
their argument leads to, each from beside its own file. -/
theorem dispatch_standard_congr {e' : Expander} {files' : FileTree} {c' : Call}
    (hregistry : e.registry = .standard files) (hregistry' : e'.registry = .standard files')
    (hstrict : e'.strict = e.strict) (hfunction : c'.function = c.function)
    (harguments : c'.arguments = c.arguments) (hspan : c'.span = c.span) :
    (∃ failure, c.refusal? e.strict = some failure ∧ (e.dispatch c).result = .error failure ∧
      (e'.dispatch c').result = .error failure) ∨
    ∃ argument, c.AsksFor (c.origin.parent.join argument) ∧
      (e.dispatch c).result = files.includedDocument (c.origin.parent.join argument) ∧
      (e'.dispatch c').result = files'.includedDocument (c'.origin.parent.join argument) := by
  have hsame : c'.refusal? e'.strict = c.refusal? e.strict := by
    rw [hstrict]
    exact Call.refusal?_congr hfunction harguments hspan e.strict
  have hother := dispatch_standard hregistry' c'
  rw [hsame] at hother
  obtain ⟨failure, hrefusal, hresult⟩ | ⟨path, hrefusal, ⟨hinclude, argument, hargument, rfl⟩, -,
    hresult⟩ := dispatch_standard hregistry c
  · obtain ⟨failure', hrefusal', hresult'⟩ | ⟨_, hrefusal', -⟩ := hother
    · cases hrefusal.symm.trans hrefusal'
      exact .inl ⟨failure, hrefusal, hresult, hresult'⟩
    · cases hrefusal.symm.trans hrefusal'
  · obtain ⟨_, hrefusal', -⟩ | ⟨_, -, ⟨-, argument', hargument', rfl⟩, -, hresult'⟩ := hother
    · cases hrefusal.symm.trans hrefusal'
    · rw [harguments, hargument] at hargument'
      cases hargument'
      exact .inr ⟨argument, ⟨hinclude, argument, hargument, rfl⟩, hresult, hresult'⟩

/-- A call fails in one of a few ways. -/
theorem isOfInclusion_of_dispatch (hregistry : e.registry = .standard files)
    (h : (e.dispatch c).result = .error failure) : failure.IsOfInclusion := by
  obtain ⟨_, hrefusal, hresult⟩ | ⟨_, -, -, -, hresult⟩ := dispatch_standard hregistry c
  · rw [h] at hresult
    cases hresult
    exact Call.isOfInclusion_of_refusal hrefusal
  · rw [h] at hresult
    exact FileTree.isOfInclusion_of_includedDocument hresult.symm

/-- An error of the standard registry is not located yet. -/
theorem trace_of_dispatch (hregistry : e.registry = .standard files)
    (h : (e.dispatch c).result = .error (.reported error)) : error.trace = .unknown :=
  (isOfInclusion_of_dispatch hregistry h).trace_eq

/-- What a call produces is the document that the file spells which it asks for. -/
theorem exists_asksFor_of_dispatch (hregistry : e.registry = .standard files)
    (h : (e.dispatch c).result = .ok produced) :
    ∃ path source, c.AsksFor path ∧ .including path ∈ (e.dispatch c).events ∧
      files.readSource path = .ok source ∧ Document.parse source path = .ok produced := by
  obtain ⟨_, -, hresult⟩ | ⟨path, -, hasks, hevent, hresult⟩ := dispatch_standard hregistry c
  · rw [h] at hresult
    cases hresult
  · rw [h] at hresult
    obtain ⟨source, hread, hparse⟩ := FileTree.includedDocument_eq_ok_iff.mp hresult.symm
    exact ⟨path, source, hasks, hevent, hread, hparse⟩

/-- What a call produces comes from the file that it includes. -/
theorem includes_of_dispatch (hregistry : e.registry = .standard files)
    (h : (e.dispatch c).result = .ok produced) (hmem : .call inner ∈ produced.nodes) :
    c.Includes inner := by
  obtain ⟨path, _, ⟨-, argument, hargument, rfl⟩, -, -, hparse⟩ :=
    exists_asksFor_of_dispatch hregistry h
  exact ⟨argument, hargument, Document.origin_of_parse hparse _ hmem⟩

end Expander

end Transclude
