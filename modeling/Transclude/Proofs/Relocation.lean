import Transclude.Proofs.Compilation
import Transclude.Proofs.Expansion.Simulation
import Transclude.Proofs.FileTree.Moving
import Transclude.Proofs.Provenance

/-!
# Compiling a tree that was moved

Every file is included as it is seen from the directory of the file that includes it. So nothing
depends on where all the files stand together: if a tree is moved under a directory, and the source
with it, then the source compiles to the same text as before, or fails in the same way. All that
changes are the paths that errors tell.

## Main definitions

* `Passage.under`, `Call.under`, `Trace.under`, `Abort.under` — what is known of places, moved
* `CompilationError.MovesTo`, `Failure.MovesTo` — an error is another one, moved
* `FileTree.Meets`, `FileTree.IsConfined` — the calls that are met, and that they do not leave the
  tree
* `FileTree.confines` — a check that they do not

## Main results

* `Document.parse_under` — a source is read alike wherever it stands
* `FileTree.simulation_under` — calls produce the same, moved
* `FileTree.compile_under` — a source that is moved with its tree compiles to the same
-/

namespace Transclude

open Expander (relayedFiles relayedSource)

variable {directory : List String}

/-- The passage of a file that was moved under the directory. -/
def Passage.under (directory : List String) (t : Passage) : Passage :=
  { t with origin := t.origin.under directory }

/-- The call of a file that was moved under the directory. -/
def Call.under (directory : List String) (c : Call) : Call :=
  { c with origin := c.origin.under directory }

/-- The location in a file that was moved under the directory. -/
def Location.under (directory : List String) (location : Location) : Location :=
  { location with origin := location.origin.under directory }

/-- What is known of an error's place when the files were moved under the directory. -/
def Trace.under (directory : List String) (trace : Trace) : Trace where
  location := trace.location.map (Location.under directory)
  expansion := trace.expansion.map (Call.under directory)

/-- What breaks off a run when the files were moved under the directory. -/
def Abort.under (directory : List String) : Abort → Abort
  | .inaccessible path fault => .inaccessible (path.under directory) fault
  | abort => abort

/-- Two faults are the same, or both tell that something outside failed. What is told of that is the
path. -/
inductive Fault.SameKind : Fault → Fault → Prop
  | refl (fault : Fault) : SameKind fault fault
  | external (reason reason' : String) : SameKind (.external reason) (.external reason')

/-- The second error is the first one when the files were moved under the directory: it is of the
same kind and has the same spans, and the same functions have been called on the way. -/
inductive CompilationError.MovesTo (directory : List String) :
    CompilationError → CompilationError → Prop
  | simple {fault fault' trace} (h : fault.SameKind fault') :
      MovesTo directory (.simple fault trace) (.simple fault' (trace.under directory))
  | nested {cause cause' trace} (h : MovesTo directory cause cause') :
      MovesTo directory (.nested cause trace) (.nested cause' (trace.under directory))

/-- The second failure is the first one when the files were moved under the directory. -/
inductive Failure.MovesTo (directory : List String) :
    Failure CompilationError → Failure CompilationError → Prop
  | reported {error error'} (h : error.MovesTo directory error') :
      MovesTo directory (.reported error) (.reported error')
  | aborted (abort : Abort) : MovesTo directory (.aborted abort) (.aborted (abort.under directory))

namespace CompilationError.MovesTo

variable {error error' : CompilationError}

/-- An error that has just arisen tells nothing that could be moved. -/
theorem ofFault (fault : Fault) :
    (CompilationError.ofFault fault).MovesTo directory (CompilationError.ofFault fault) :=
  .simple (.refl fault)

theorem trace_eq (h : error.MovesTo directory error') :
    error'.trace = error.trace.under directory := by
  cases h <;> rfl

theorem withTrace (h : error.MovesTo directory error') (trace : Trace) :
    (error.withTrace trace).MovesTo directory (error'.withTrace (trace.under directory)) := by
  cases h with
  | simple h => exact .simple h
  | nested h => exact .nested h

/-- Errors that escape from calls are moved with the calls. -/
theorem escapeFrom (h : error.MovesTo directory error') (c : Call) :
    (error.escapeFrom c).MovesTo directory (error'.escapeFrom (c.under directory)) := by
  have htrace := h.trace_eq
  cases hlocation : error.trace.location with
  | none =>
    have hlocation' : error'.trace.location = none := by simp [htrace, Trace.under, hlocation]
    rw [escapeFrom_of_unlocated hlocation, escapeFrom_of_unlocated hlocation', htrace]
    exact h.withTrace ⟨_, _⟩
  | some location =>
    have hlocation' : error'.trace.location = some (location.under directory) := by
      simp [htrace, Trace.under, hlocation]
    have htrace' : error'.trace.expansion ++ [c.under directory] =
        (error.trace.expansion ++ [c]).map (Call.under directory) := by simp [htrace, Trace.under]
    rw [escapeFrom_of_located hlocation, escapeFrom_of_located hlocation', htrace']
    exact h.withTrace ⟨_, _⟩

theorem foldr_escapeFrom (h : error.MovesTo directory error') (calls : List Call) :
    (calls.foldr CompilationError.escapeFrom error).MovesTo directory
      ((calls.map (Call.under directory)).foldr CompilationError.escapeFrom error') := by
  induction calls with
  | nil => exact h
  | cons c calls ih => exact ih.escapeFrom c

end CompilationError.MovesTo

/-- Failures that escape from calls are moved with the calls. -/
theorem Failure.MovesTo.map_escapeFrom {failure failure' : Failure CompilationError}
    (h : failure.MovesTo directory failure') (calls : List Call) :
    (failure.map (calls.foldr CompilationError.escapeFrom)).MovesTo directory
      (failure'.map ((calls.map (Call.under directory)).foldr CompilationError.escapeFrom)) := by
  cases h with
  | reported h => exact .reported (h.foldr_escapeFrom calls)
  | aborted abort => exact .aborted abort

/-- Why a call is turned away does not depend on where it stands. -/
theorem Call.movesTo_of_refusal {c : Call} {strict : Bool} {failure : Failure CompilationError}
    (h : c.refusal? strict = some failure) : failure.MovesTo directory failure := by
  obtain ⟨name, rfl⟩ | ⟨reason, rfl⟩ | rfl := c.eq_of_refusal h
  · exact .reported (.ofFault _)
  · exact .reported (.ofFault _)
  · exact .aborted .unplacedNode

/-- Expansions that stop for the same reason fail in the same way. -/
theorem Stop.Matches.movesTo_failure {stop stop' : Stop}
    (h : stop.Matches (Failure.MovesTo directory) stop') (limit : Option Int) (capacity : Nat) :
    (stop.failure (Expander.exhaustion limit capacity)).MovesTo directory
      (stop'.failure (Expander.exhaustion limit capacity)) := by
  cases h with
  | failed h => exact h
  | exhausted =>
    cases limit with
    | none => exact .aborted .endless
    | some limit =>
      simp only [Stop.failure, Expander.exhaustion]
      split
      · exact .reported (.ofFault _)
      · exact .aborted .endless

/-- Passages keep their text when they are moved. -/
theorem joinPassages_map_under (passages : List Passage) :
    joinPassages (passages.map (Passage.under directory)) = joinPassages passages := by
  simp [joinPassages, Passage.under, Function.comp_def]

/-- Lists that correspond by a function are mapped by it. -/
theorem eq_map_of_forall₂ {α β : Type} {f : α → β} {xs : List α} {ys : List β}
    (h : List.Forall₂ (fun x y => y = f x) xs ys) : ys = xs.map f := by
  have heq : List.Forall₂ Eq (xs.map f) ys := by
    rw [List.forall₂_map_left_iff]
    exact h.imp fun _ _ => Eq.symm
  rw [List.forall₂_eq_eq_eq] at heq
  exact heq.symm

/-- A source is read alike wherever it stands. -/
theorem Document.parse_under (directory : List String) (source : String) (origin : Path) :
    (∃ d, Document.parse source origin = .ok d ∧
      Document.parse source (origin.under directory) =
        .ok ⟨d.nodes.map (Node.withOrigin (origin.under directory))⟩) ∨
    ∃ failure failure', Document.parse source origin = .error failure ∧
      Document.parse source (origin.under directory) = .error failure' ∧
      failure.MovesTo directory failure' := by
  cases hparse : Document.parse source origin with
  | ok d => exact .inl ⟨d, rfl, Document.parse_withOrigin hparse _⟩
  | error failure =>
    right
    obtain ⟨before, body, fault, hmisspells, rfl⟩ := parse_eq_error_iff.mp hparse
    refine ⟨_, _, rfl, parse_eq_error_iff.mpr ⟨before, body, fault, hmisspells, rfl⟩, ?_⟩
    cases fault with
    | aborted abort =>
      obtain ⟨digits, -, rfl⟩ := Invocation.breaksOff_of_ofBody hmisspells.ofBody_eq
      exact .aborted (.oversizedNumeral digits)
    | reported fault => exact .reported (.simple (.refl _))

namespace FileTree

/-- The call is met when a document is expanded: it stands in a file that including leads to. -/
def Meets (t : FileTree) (source : String) (origin : Path) (c : Call) : Prop :=
  ∃ text path d, t.Reaches source origin text path ∧ Document.parse text path = .ok d ∧
    .call c ∈ d.nodes

/-- No call that is met leaves what is below the working directory: the paths that the calls ask for
are relative, and following them does not go up from there. -/
def IsConfined (t : FileTree) (source : String) (origin : Path) : Prop :=
  ∀ c path, t.Meets source origin c → c.AsksFor path →
    path.root = .relative ∧ t.StaysBelow t.workingDirectory t.workingDirectory path.names

variable {t t' : FileTree} {source text : String} {origin path : Path} {c : Call} {d : Document}

/-- Every file that is read has a relative path, and its path has a name. -/
theorem Reaches.relative_and_ne_nil (h : t.Reaches source origin text path)
    (hworking : t.IsDirectory t.workingDirectory) (horigin : origin.root = .relative)
    (hnames : origin.names ≠ []) (hconfined : t.IsConfined source origin) :
    path.root = .relative ∧ path.names ≠ [] := by
  cases h with
  | start => exact ⟨horigin, hnames⟩
  | @further text path d c argument _ hreaches hparse hcall hfunction harguments hread =>
    have hsame : c.origin = path := Document.origin_of_parse hparse _ hcall
    have hasks : c.AsksFor (path.parent.join argument) :=
      ⟨hfunction, argument, harguments, by rw [hsame]⟩
    obtain ⟨hrelative, -⟩ := hconfined c _ ⟨text, path, d, hreaches, hparse, hcall⟩ hasks
    refine ⟨hrelative, ?_⟩
    intro hempty
    -- Without a name the path would lead to the working directory, which is not a file.
    obtain ⟨place, hfollow, hfile⟩ := exists_follow_of_readSource hread
    have hplace := followFrom_of_follow hfollow
    rw [hempty, startOf, if_pos hrelative, followFrom_nil] at hplace
    cases hplace
    exact hworking.not_holdsFile hfile

/-- Whether a node does not leave the tree, and leads to none but the given texts of files. -/
def confinesNode (t : FileTree) (known : List (String × Path)) : Node → Bool
  | .text _ => true
  | .call c =>
    match c.arguments with
    | [.path argument] =>
      let path := c.origin.parent.join argument
      path.root = .relative && t.StaysBelow t.workingDirectory t.workingDirectory path.names &&
        match t.readSource path with
        | .error _ => true
        | .ok included => known.contains (included, path)
    | _ => true

/-- Whether including from the given texts of files does not leave the tree, and leads to none but
these again. -/
def confines (t : FileTree) (known : List (String × Path)) : Bool :=
  known.all fun (text, path) =>
    match Document.parse text path with
    | .error _ => true
    | .ok d => d.nodes.all (t.confinesNode known)

theorem of_confinesNode {known : List (String × Path)}
    (h : t.confinesNode known (.call c) = true) (hasks : c.AsksFor path) :
    (path.root = .relative ∧ t.StaysBelow t.workingDirectory t.workingDirectory path.names) ∧
      ∀ included, t.readSource path = .ok included → (included, path) ∈ known := by
  obtain ⟨-, argument, harguments, rfl⟩ := hasks
  simp only [confinesNode, harguments, Bool.and_eq_true, decide_eq_true_eq] at h
  refine ⟨h.1, ?_⟩
  intro included hread
  simpa [hread] using h.2

/-- What leads to none but files that are given cannot lead out of the tree. -/
theorem isConfined_of_confines {known : List (String × Path)} (hstart : (source, origin) ∈ known)
    (h : t.confines known = true) : t.IsConfined source origin := by
  have hnode {text path d c} (hknown : (text, path) ∈ known)
      (hparse : Document.parse text path = .ok d) (hcall : .call c ∈ d.nodes) :
      t.confinesNode known (.call c) = true := by
    have htext := List.all_eq_true.mp h _ hknown
    simp only [hparse] at htext
    exact List.all_eq_true.mp htext _ hcall
  -- By induction along the calls, nothing but the given texts is come to.
  have hreached {text path} (hreaches : t.Reaches source origin text path) :
      (text, path) ∈ known := by
    induction hreaches with
    | start => exact hstart
    | @further text path d c argument _ _ hparse hcall hfunction harguments hread ih =>
      have horigin : c.origin = path := Document.origin_of_parse hparse _ hcall
      have hasks : c.AsksFor (path.parent.join argument) :=
        ⟨hfunction, argument, harguments, by rw [horigin]⟩
      exact (of_confinesNode (hnode ih hparse hcall) hasks).2 _ hread
  rintro c path ⟨text, calling, d, hreaches, hparse, hcall⟩ hasks
  exact (of_confinesNode (hnode (hreached hreaches) hparse hcall) hasks).1

/-- What is included from a file that reads the same is the same, moved. -/
theorem includedDocument_under (h : t'.readSource (path.under directory) = t.readSource path) :
    (∃ d, t.includedDocument path = .ok d ∧ t'.includedDocument (path.under directory) =
      .ok ⟨d.nodes.map (Node.withOrigin (path.under directory))⟩) ∨
    ∃ failure failure', t.includedDocument path = .error failure ∧
      t'.includedDocument (path.under directory) = .error failure' ∧
      failure.MovesTo directory failure' := by
  unfold includedDocument
  rw [h]
  cases t.readSource path with
  | error fault =>
    refine .inr ⟨_, _, rfl, rfl, ?_⟩
    unfold SourceFault.failure
    split
    · exact .aborted _
    · exact .reported (.simple (.external _ _))
    · exact .reported (.simple (.external _ _))
  | ok text =>
    obtain ⟨d, hparse, hparse'⟩ | ⟨failure, failure', hparse, hparse', hmoves⟩ :=
      Document.parse_under directory text path
    · exact .inl ⟨d, by simp [hparse, Except.mapError], by simp [hparse', Except.mapError]⟩
    · right
      simp only [hparse, hparse', Except.mapError]
      refine ⟨_, _, rfl, rfl, ?_⟩
      cases hmoves with
      | reported h => exact .reported (.nested h)
      | aborted abort => exact .aborted abort

/-- The nodes of a document that is met correspond to those of the document moved. -/
theorem forall₂_matches_under (hreaches : t.Reaches source origin text path)
    (hparse : Document.parse text path = .ok d) :
    List.Forall₂ (Node.Matches (fun p p' => p' = p.under directory)
      (fun c c' => t.Meets source origin c ∧ c' = c.under directory))
      d.nodes (d.nodes.map (Node.withOrigin (path.under directory))) := by
  rw [List.forall₂_map_right_iff, List.forall₂_same]
  intro node hnode
  have horigin := Document.origin_of_parse hparse node hnode
  subst horigin
  cases node with
  | text p => exact .text rfl
  | call c => exact .call ⟨⟨text, _, d, hreaches, hparse, hnode⟩, rfl⟩

section

variable {e e' : Expander} (hstands : StandsUnder directory t t') (hlimit : t.pathLimit = none)
  (hlimit' : t'.pathLimit = none) (hworking : t.IsDirectory t.workingDirectory)
  (hregistry : e.registry = .standard t) (hregistry' : e'.registry = .standard t')
  (hstrict : e'.strict = e.strict) (horigin : origin.root = .relative) (hnames : origin.names ≠ [])
  (hconfined : t.IsConfined source origin)

include hworking horigin hnames hconfined in
/-- A call that is met sees paths from a directory that is moved with it. -/
theorem Meets.join_under {argument : Path} (hc : t.Meets source origin c)
    (hasks : c.AsksFor (c.origin.parent.join argument)) :
    (c.under directory).origin.parent.join argument =
      (c.origin.parent.join argument).under directory := by
  obtain ⟨hrelative, -⟩ := hconfined c _ hc hasks
  have hargument : argument.root = .relative := by
    by_contra hrooted
    rw [Path.join_of_rooted hrooted] at hrelative
    exact hrooted hrelative
  obtain ⟨text, path, d, hreaches, hparse, hcall⟩ := hc
  have hpath : c.origin = path := Document.origin_of_parse hparse _ hcall
  obtain ⟨hpathRelative, hpathNames⟩ :=
    hreaches.relative_and_ne_nil hworking horigin hnames hconfined
  rw [← hpath] at hpathRelative hpathNames
  exact Path.parent_join_under hpathRelative hpathNames hargument

include hstands hlimit hlimit' hworking hregistry hregistry' hstrict horigin hnames hconfined

/-- A call that is met is turned away in both trees, or it includes in both the file that it asks
for, and this file reads the same. -/
theorem dispatch_under (hc : t.Meets source origin c) :
    (∃ failure, (e.dispatch c).result = .error failure ∧
      (e'.dispatch (c.under directory)).result = .error failure ∧
      failure.MovesTo directory failure) ∨
    ∃ path, c.AsksFor path ∧ (e.dispatch c).result = t.includedDocument path ∧
      (e'.dispatch (c.under directory)).result = t'.includedDocument (path.under directory) ∧
      t'.readSource (path.under directory) = t.readSource path := by
  obtain ⟨failure, hrefusal, hresult, hresult'⟩ | ⟨argument, hasks, hresult, hresult'⟩ :=
    @Expander.dispatch_standard_congr e t c e' t' (c.under directory) hregistry hregistry' hstrict
      rfl rfl rfl
  · exact .inl ⟨failure, hresult, hresult', Call.movesTo_of_refusal hrefusal⟩
  · obtain ⟨hrelative, hstays⟩ := hconfined c _ hc hasks
    rw [hc.join_under hworking horigin hnames hconfined hasks] at hresult'
    exact .inr ⟨_, hasks, hresult, hresult', hstands.readSource hlimit hlimit' hrelative hstays⟩

/-- Calls that are met produce the same, moved, or fail in the same way. -/
theorem simulation_under :
    Expander.Simulation e e' (fun p p' => p' = p.under directory)
      (fun c c' => t.Meets source origin c ∧ c' = c.under directory)
      (Failure.MovesTo directory) where
  produced := by
    rintro c _ produced ⟨hc, rfl⟩ hresult
    obtain ⟨_, hfailed, -⟩ | ⟨path, hasks, hincluded, hincluded', hread⟩ :=
      dispatch_under hstands hlimit hlimit' hworking hregistry hregistry' hstrict horigin hnames
        hconfined hc
    · rw [hresult] at hfailed
      cases hfailed
    obtain ⟨d, hd, hd'⟩ | ⟨_, _, hfailed, -⟩ := includedDocument_under hread
    · rw [hresult, hd] at hincluded
      cases hincluded
      -- Including leads on to what is produced, so the calls in there are met as well.
      obtain ⟨text, calling, document, hreaches, hparse, hcall⟩ := hc
      obtain ⟨included, next, hasks', hnext, -, -, hproduced⟩ :=
        Expander.exists_reaches_of_dispatch hregistry hreaches hparse hcall hresult
      obtain rfl := hasks.eq hasks'
      exact ⟨_, hincluded'.trans hd', forall₂_matches_under hnext hproduced⟩
    · rw [hresult, hfailed] at hincluded
      cases hincluded
  failed := by
    rintro c _ failure ⟨hc, rfl⟩ hresult
    obtain ⟨_, hfailed, hfailed', hmoves⟩ | ⟨path, -, hincluded, hincluded', hread⟩ :=
      dispatch_under hstands hlimit hlimit' hworking hregistry hregistry' hstrict horigin hnames
        hconfined hc
    · rw [hresult] at hfailed
      cases hfailed
      exact ⟨_, hfailed', hmoves⟩
    obtain ⟨d, hd, -⟩ | ⟨_, failed', hfailed, hfailed', hmoves⟩ := includedDocument_under hread
    · rw [hresult, hd] at hincluded
      cases hincluded
    · rw [hresult, hfailed] at hincluded
      cases hincluded
      exact ⟨failed', hincluded'.trans hfailed', hmoves⟩

/-- A source that is moved with its tree compiles to the same text, or fails in the same way. -/
theorem compile_cases_under (limit : Option Int) (capacity : Nat) :
    (∃ text, (e.compile limit capacity source origin).result = .ok text ∧
      (e'.compile limit capacity source (origin.under directory)).result = .ok text) ∨
    ∃ failure failure', (e.compile limit capacity source origin).result = .error failure ∧
      (e'.compile limit capacity source (origin.under directory)).result = .error failure' ∧
      failure.MovesTo directory failure' := by
  obtain ⟨d, hparse, hparse'⟩ | ⟨failure, failure', hparse, hparse', hmoves⟩ :=
    Document.parse_under directory source origin
  swap
  · exact .inr ⟨failure, failure', Expander.compile_of_parse_error hparse,
      Expander.compile_of_parse_error hparse', hmoves⟩
  have hsimulation := simulation_under hstands hlimit hlimit' hworking hregistry hregistry' hstrict
    horigin hnames hconfined
  have hnodes := @forall₂_matches_under directory t source source origin origin d .start hparse
  rw [Expander.compile_of_parse_ok hparse, Expander.compile_of_parse_ok hparse',
    Expander.expand_eq_expandNodes, Expander.expand_eq_expandNodes]
  -- Either expansion tells how the other one goes.
  obtain ⟨_, passages, hcompletes⟩ | ⟨_, around, last, stop, hstops⟩ :=
    e.completes_or_stopsAt (Expander.initialRoom limit capacity) d.nodes
  · left
    obtain ⟨_, passages', hcompletes', hpassages⟩ := hsimulation.completes hcompletes hnodes
    rw [hcompletes.expandNodes_eq, hcompletes'.expandNodes_eq]
    refine ⟨joinPassages passages, rfl, ?_⟩
    have hsame : passages' = passages.map (Passage.under directory) := eq_map_of_forall₂ hpassages
    rw [hsame, Except.map, joinPassages_map_under]
  · right
    obtain ⟨_, around', _, stop', hstops', haround, ⟨-, rfl⟩, hstop⟩ :=
      hsimulation.stopsAt hstops hnodes
    rw [hstops.expandNodes_eq, hstops'.expandNodes_eq]
    refine ⟨_, _, rfl, rfl, ?_⟩
    have hsame : around' ++ [last.under directory] =
        (around ++ [last]).map (Call.under directory) := by
      rw [eq_map_of_forall₂ (haround.imp fun _ _ h => h.2), List.map_append, List.map_singleton]
    rw [hsame]
    exact (hstop.movesTo_failure limit capacity).map_escapeFrom _

end

/-- **Compiling is invariant under moving all files together.** Let a tree stand under a directory
in another one, and let no call that is met leave it. A source in the tree compiles to the same text
there as before it was moved. It fails with an error in the one place exactly if it does in the
other, with one of the same kind, with the same spans and functions and with all paths moved. And it
is endless in both or in none. -/
theorem compile_under {e e' : Expander} (hstands : StandsUnder directory t t')
    (hlimit : t.pathLimit = none) (hlimit' : t'.pathLimit = none)
    (hworking : t.IsDirectory t.workingDirectory) (hregistry : e.registry = .standard t)
    (hregistry' : e'.registry = .standard t') (hstrict : e'.strict = e.strict)
    (horigin : origin.root = .relative) (hnames : origin.names ≠ [])
    (hconfined : t.IsConfined source origin) (limit : Option Int) (capacity : Nat) :
    (∀ text, (e'.compile limit capacity source (origin.under directory)).result = .ok text ↔
      (e.compile limit capacity source origin).result = .ok text) ∧
    (∀ error, (e.compile limit capacity source origin).result = .error (.reported error) →
      ∃ error', error.MovesTo directory error' ∧
        (e'.compile limit capacity source (origin.under directory)).result =
          .error (.reported error')) ∧
    (∀ error', (e'.compile limit capacity source (origin.under directory)).result =
        .error (.reported error') →
      ∃ error, error.MovesTo directory error' ∧
        (e.compile limit capacity source origin).result = .error (.reported error)) ∧
    ((e'.compile limit capacity source (origin.under directory)).result =
        .error (.aborted .endless) ↔
      (e.compile limit capacity source origin).result = .error (.aborted .endless)) := by
  obtain ⟨text, hresult, hresult'⟩ | ⟨failure, failure', hresult, hresult', hmoves⟩ :=
    compile_cases_under hstands hlimit hlimit' hworking hregistry hregistry' hstrict horigin hnames
      hconfined limit capacity
  · simp [hresult, hresult']
  · rw [hresult, hresult']
    cases hmoves with
    | reported h =>
      refine ⟨by simp, ?_, ?_, by simp⟩
      · rintro _ ⟨⟩
        exact ⟨_, h, rfl⟩
      · rintro _ ⟨⟩
        exact ⟨_, h, rfl⟩
    | aborted abort => cases abort <;> simp [Abort.under]

/-- The files that include each other compile to the same two directories further down, though the
one goes back up to include the other. -/
theorem compile_under_relayed :
    StandsUnder ["lib", "sub"] relayedFiles (relayedFiles.under ["lib", "sub"]) ∧
      relayedFiles.IsConfined relayedSource (Path.parse "input.md") ∧
      (relayedFiles.expander.compile none 2 relayedSource (Path.parse "input.md")).result =
        .ok "A\nB" ∧
      ((relayedFiles.under ["lib", "sub"]).expander.compile none 2 relayedSource
        ((Path.parse "input.md").under ["lib", "sub"])).result = .ok "A\nB" := by
  have hworking : relayedFiles.IsDirectory relayedFiles.workingDirectory := by decide
  have hstands : StandsUnder ["lib", "sub"] relayedFiles (relayedFiles.under ["lib", "sub"]) :=
    standsUnder_under hworking (by decide)
  have hconfined : relayedFiles.IsConfined relayedSource (Path.parse "input.md") := by
    have hknown : relayedFiles.confines [
        (relayedSource, Path.parse "input.md"),
        ("A\n\x7b\x7binclude(#../b.md#)\x7d\x7d", Path.parse "docs/a.md"),
        ("B", Path.parse "docs/../b.md")] = true := by decide +kernel
    exact isConfined_of_confines List.mem_cons_self hknown
  have hcompile :
      (relayedFiles.expander.compile none 2 relayedSource (Path.parse "input.md")).result =
        .ok "A\nB" := by decide +kernel
  obtain ⟨hok, -⟩ := @compile_under _ _ _ _ _ relayedFiles.expander
    (relayedFiles.under ["lib", "sub"]).expander hstands rfl rfl hworking rfl rfl rfl (by decide)
    (by decide) hconfined none 2
  exact ⟨hstands, hconfined, hcompile, (hok _).mpr hcompile⟩

end FileTree

end Transclude
