import Transclude.Proofs.Expansion.Inclusion
import Transclude.Proofs.Expansion.Nesting
import Transclude.Provider.Fixed

/-!
# Where errors are said to stand

An error arises at one call, while others are being expanded around it. What is finally reported is
the same error with a trace: an error that arises without a location is located at that call and
has recorded the calls around it, and one that arises with a location keeps it and has recorded that
call as well. Nothing else of the error changes.

## Main definitions

* `Expander.Raises` — an error arises at a call that is expanded within others

## Main results

* `Expander.exists_raises` — every error that is reported has arisen somewhere
* `Expander.Raises.expand_eq` — an error that arises escapes from all calls around
* `Expander.isChain_includes_of_nests` — calls of the standard registry nest by including files
* `Expander.expand_attribution` — the trace of every error that is reported
-/

namespace Transclude.Expander

/-- The error `raw` arises at the call `c` while the calls `around` it are being expanded,
outermost first. -/
def Raises (e : Expander) (limit : Option Int) (capacity : Nat) (d : Document)
    (around : List Call) (c : Call) (raw : CompilationError) : Prop :=
  ∃ events stop, e.StopsAt (initialRoom limit capacity) d.nodes events around c stop ∧
    stop.failure (exhaustion limit capacity) = .reported raw

variable {e : Expander} {limit : Option Int} {capacity : Nat} {d : Document} {files : FileTree}
variable {nodes : List Node} {around chain : List Call} {c : Call} {raw error : CompilationError}

/-- Every error that is reported has arisen at some call. -/
theorem exists_raises (h : (e.expand limit capacity d).result = .error (.reported error)) :
    ∃ around c raw, e.Raises limit capacity d around c raw := by
  obtain ⟨_, _, -, hrun⟩ | ⟨events, around, c, stop, hstops, hrun⟩ :=
    e.expand_cases limit capacity d
  · rw [hrun] at h
    cases h
  · rw [hrun] at h
    cases hfailure : stop.failure (exhaustion limit capacity) with
    | aborted _ =>
      rw [hfailure] at h
      cases h
    | reported raw => exact ⟨around, c, raw, events, stop, hstops, hfailure⟩

namespace Raises

/-- An error that arises escapes from the call it arises at and from all those around it. -/
theorem expand_eq (h : e.Raises limit capacity d around c raw) :
    (e.expand limit capacity d).result =
      .error (.reported ((around ++ [c]).foldr CompilationError.escapeFrom raw)) := by
  obtain ⟨_, _, hstops, hfailure⟩ := h
  rw [expand_eq_expandNodes, hstops.expandNodes_eq, hfailure]
  rfl

theorem nests (h : e.Raises limit capacity d around c raw) : e.Nests d.nodes (around ++ [c]) := by
  obtain ⟨_, _, hstops, -⟩ := h
  exact hstops.nests

/-- An error arises because the limit is reached, or because nothing is produced for the call. -/
theorem depthExceeded_or_dispatch (h : e.Raises limit capacity d around c raw) :
    (∃ n, limit = some n ∧ around.length = n.toNat ∧ raw = .ofFault (.depthExceeded n)) ∨
      (e.dispatch c).result = .error (.reported raw) := by
  obtain ⟨events, stop, hstops, hfailure⟩ := h
  cases stop with
  | failed failure =>
    cases hfailure
    exact .inr hstops.dispatch_eq
  | exhausted =>
    -- Without a limit that counts, running out of room is not an error.
    left
    have hlength := hstops.length_around
    cases limit with
    | none => cases hfailure
    | some n =>
      by_cases hn : n ≤ capacity
      · rw [Stop.failure, exhaustion, if_pos hn] at hfailure
        rw [initialRoom, if_pos hn] at hlength
        cases hfailure
        exact ⟨n, rfl, hlength, rfl⟩
      · rw [Stop.failure, exhaustion, if_neg hn] at hfailure
        cases hfailure

/-- With the standard registry, errors arise without a location and without any record. -/
theorem trace_eq_unknown (h : e.Raises limit capacity d around c raw)
    (hregistry : e.registry = .standard files) : raw.trace = .unknown := by
  obtain ⟨n, -, -, rfl⟩ | hresult := h.depthExceeded_or_dispatch
  · rfl
  · exact trace_of_dispatch hregistry hresult

end Raises

/-- With the standard registry, every error that is reported arises while calls are carried out. -/
theorem category_of_expand (hregistry : e.registry = .standard files)
    (h : (e.expand limit capacity d).result = .error (.reported error)) :
    error.category = .provider := by
  obtain ⟨around, c, raw, hraises⟩ := exists_raises h
  rw [hraises.expand_eq] at h
  obtain rfl := Failure.reported.inj (Except.error.inj h)
  obtain ⟨trace, hescaped⟩ := raw.exists_foldr_escapeFrom_eq (around ++ [c])
  rw [hescaped, CompilationError.category_withTrace]
  obtain ⟨_, -, -, rfl⟩ | hresult := hraises.depthExceeded_or_dispatch
  · rfl
  · exact (isOfInclusion_of_dispatch hregistry hresult).category_eq

/-- Calls of the standard registry nest by including the files that the inner ones come from. -/
theorem isChain_includes_of_nests (hregistry : e.registry = .standard files)
    (h : e.Nests nodes chain) : chain.IsChain Call.Includes := by
  induction chain generalizing nodes with
  | nil => exact .nil
  | cons c chain ih =>
    obtain ⟨-, hchain⟩ := nests_cons.mp h
    cases chain with
    | nil => exact .singleton c
    | cons next chain =>
      obtain ⟨produced, hresult, hmem⟩ := mem_producedNodes_iff.mp (nests_cons.mp hchain).1
      exact .cons_cons (includes_of_dispatch hregistry hresult hmem) (ih hchain)

/-- **Errors are attributed exactly.** Every error that is reported has arisen somewhere. An error
that arises at a call, within others, is reported without any change but in its trace. An error
that arises without a location is located at the call, and records the calls around it, innermost
first; an error that is located keeps its location, and records the call too. With the standard
registry all errors arise without a location, and every call includes the file of the next. -/
theorem expand_attribution (e : Expander) (limit : Option Int) (capacity : Nat) (d : Document) :
    (∀ error, (e.expand limit capacity d).result = .error (.reported error) →
      ∃ around c raw, e.Raises limit capacity d around c raw) ∧
    ∀ around c raw, e.Raises limit capacity d around c raw →
      e.Nests d.nodes (around ++ [c]) ∧
      (∃ error, (e.expand limit capacity d).result = .error (.reported error) ∧
        (raw.trace.location = none →
          error = raw.withTrace
            ⟨some ⟨c.origin, c.span, ""⟩, raw.trace.expansion ++ around.reverse⟩) ∧
        (∀ location, raw.trace.location = some location →
          error = raw.withTrace
            ⟨some location, raw.trace.expansion ++ (around ++ [c]).reverse⟩) ∧
        error.category = raw.category ∧ error.message = raw.message ∧
        error.cause? = raw.cause?) ∧
      ∀ files, e.registry = .standard files →
        raw.trace = .unknown ∧ (around ++ [c]).IsChain Call.Includes := by
  refine ⟨fun _ => exists_raises, ?_⟩
  intro around c raw h
  refine ⟨h.nests, ⟨_, h.expand_eq, ?_, ?_, ?_⟩, ?_⟩
  · intro hlocation
    exact CompilationError.foldr_escapeFrom_of_unlocated hlocation around c
  · intro location hlocation
    exact CompilationError.foldr_escapeFrom_of_located hlocation (around ++ [c])
  · cases hlocation : raw.trace.location with
    | none => simp [CompilationError.foldr_escapeFrom_of_unlocated hlocation]
    | some location => simp [CompilationError.foldr_escapeFrom_of_located hlocation]
  · intro files hregistry
    exact ⟨h.trace_eq_unknown hregistry, isChain_includes_of_nests hregistry h.nests⟩

/-- An error that stands elsewhere and has escaped from a call there. -/
def distantError : CompilationError :=
  .simple (.external "down") ⟨some ⟨.here, none, "text"⟩, [.bare "far"]⟩

/-- Calls of `outer` produce a call of `inner`, and calls of `inner` fail with a distant error. -/
def failingRelay : Expander where
  registry := ⟨[
    .ofNodes [] [("outer", [.call (.bare "inner")])],
    .ofErrors [] [("inner", distantError)]]⟩
  strict := false

theorem expand_attribution_failingRelay :
    (failingRelay.expand none defaultCapacity ⟨[.call (.bare "outer")]⟩).result =
      .error (.reported (distantError.withTrace
        ⟨some ⟨.here, none, "text"⟩, [.bare "far", .bare "inner", .bare "outer"]⟩)) := by
  obtain ⟨-, hattribution⟩ :=
    expand_attribution failingRelay none defaultCapacity ⟨[.call (.bare "outer")]⟩
  have houter : failingRelay.dispatch (.bare "outer") =
      ⟨[.dispatched "outer" "NodeProvider", .expanding 0 (.bare "outer") .origin],
        .ok ⟨[.call (.bare "inner")]⟩⟩ := rfl
  have hinner : failingRelay.dispatch (.bare "inner") =
      ⟨[.dispatched "inner" "ErrorProvider", .expanding 1 (.bare "inner") .origin],
        .error (.reported distantError)⟩ := rfl
  have hraises : failingRelay.Raises none defaultCapacity ⟨[.call (.bare "outer")]⟩
      [.bare "outer"] (.bare "inner") distantError :=
    ⟨_, _, .within houter (.failed hinner), rfl⟩
  obtain ⟨-, ⟨error, herror, -, hlocated, -⟩, -⟩ := hattribution _ _ _ hraises
  rw [herror, hlocated _ rfl]
  rfl

end Transclude.Expander
