import Transclude.Document.Render
import Transclude.Proofs.Expansion.Depth
import Transclude.Proofs.Expansion.Invocation
import Transclude.Proofs.Expansion.Simulation

/-!
# Places serve reports only

The place of a node is looked at when an error is located and when a call is recorded, and nowhere
else. What is produced for a call depends on its function, its arguments and the directory of its
document. So two documents that differ in the places of their nodes only are expanded in the same
way: providers are asked the same in the same order, and the outcomes differ in places only.

The proof needs no induction on how deep calls nest. What is produced for two calls that differ in
their places is one and the same document, so from there on the expansions are the same, and the
places of the calls come back only when an error escapes from them.

## Main definitions

* `Passage.SameButSpan`, `Call.SameButSpan`, `Node.SameButSpan`, `Document.SameButSpans` — documents
  differ in the places of their nodes only
* `CompilationError.SameButSpans`, `Event.SameButSpan` — errors and records differ in places only
* `Run.Matches` — two runs record the like and end alike
* `Query`, `Expander.queries` — what providers were asked

## Main results

* `Run.Matches.bind`, `Run.Matches.mapError_escapeFrom` — runs put together from the like are alike
* `CompilationError.SameButSpans.escapeFrom` — errors that escape from calls differ in places only
* `Expander.dispatch_matches` — what becomes of calls that differ in their places only
* `Expander.expand_sameButSpans` — expansions of documents that differ in places only
-/

namespace Transclude

/-- The passages are the same, except for their places. -/
structure Passage.SameButSpan (t t' : Passage) : Prop where
  content_eq : t'.content = t.content
  origin_eq : t'.origin = t.origin

/-- The calls are the same, except for their places; both have a place, or neither has. -/
structure Call.SameButSpan (c c' : Call) : Prop where
  function_eq : c'.function = c.function
  arguments_eq : c'.arguments = c.arguments
  origin_eq : c'.origin = c.origin
  isSome_span_eq : c'.span.isSome = c.span.isSome

/-- The nodes are the same, except for their places. -/
def Node.SameButSpan : Node → Node → Prop :=
  Node.Matches Passage.SameButSpan Call.SameButSpan

/-- The documents are the same, except for the places of their nodes. -/
def Document.SameButSpans (d d' : Document) : Prop :=
  List.Forall₂ Node.SameButSpan d.nodes d'.nodes

/-- The locations are the same, except for the stretch in the document. -/
structure Location.SameButSpan (l l' : Location) : Prop where
  origin_eq : l'.origin = l.origin
  source_eq : l'.source = l.source

/-- The traces are the same, except for the places in them. -/
structure Trace.SameButSpans (trace trace' : Trace) : Prop where
  location : Option.Rel Location.SameButSpan trace.location trace'.location
  expansion : List.Forall₂ Call.SameButSpan trace.expansion trace'.expansion

/-- The errors are the same, except for the places in their traces. -/
inductive CompilationError.SameButSpans : CompilationError → CompilationError → Prop
  | simple {fault trace trace'} (h : trace.SameButSpans trace') :
      SameButSpans (.simple fault trace) (.simple fault trace')
  | nested {cause trace trace'} (h : trace.SameButSpans trace') :
      SameButSpans (.nested cause trace) (.nested cause trace')

/-- The failures are the same, except for the places in a reported error. -/
inductive Failure.SameButSpans : Failure CompilationError → Failure CompilationError → Prop
  | reported {error error'} (h : error.SameButSpans error') :
      SameButSpans (.reported error) (.reported error')
  | aborted (abort : Abort) : SameButSpans (.aborted abort) (.aborted abort)

/-- The steps are the same, except for the place of the call. -/
inductive Event.SameButSpan : Event → Event → Prop
  | dispatched (function provider : String) :
      SameButSpan (.dispatched function provider) (.dispatched function provider)
  | expanding (index : Nat) {c c' : Call} (start start' : Position) (h : c.SameButSpan c') :
      SameButSpan (.expanding index c start) (.expanding index c' start')
  | including (path : Path) : SameButSpan (.including path) (.including path)

/-- Two runs record the like, step by step, and both end with the like: with values or with
failures. -/
inductive Run.Matches {α β : Type} (onValue : α → β → Prop) : Run α → Run β → Prop
  | ok {events events' value value'} (hevents : List.Forall₂ Event.SameButSpan events events')
      (hvalue : onValue value value') : Matches onValue ⟨events, .ok value⟩ ⟨events', .ok value'⟩
  | error {events events' failure failure'}
      (hevents : List.Forall₂ Event.SameButSpan events events')
      (hfailure : failure.SameButSpans failure') :
      Matches onValue ⟨events, .error failure⟩ ⟨events', .error failure'⟩

variable {c c' : Call} {trace trace' : Trace} {error error' : CompilationError}
variable {failure failure' : Failure CompilationError} {events events' : List Event}
variable {passages passages' : List Passage} {nodes nodes' : List Node}

theorem Passage.SameButSpan.refl (t : Passage) : t.SameButSpan t :=
  ⟨rfl, rfl⟩

theorem Call.SameButSpan.refl (c : Call) : c.SameButSpan c :=
  ⟨rfl, rfl, rfl, rfl⟩

theorem Event.SameButSpan.refl : (event : Event) → event.SameButSpan event
  | .dispatched function provider => .dispatched function provider
  | .expanding index c start => .expanding index start start (.refl c)
  | .including path => .including path

theorem Trace.SameButSpans.refl (trace : Trace) : trace.SameButSpans trace where
  location := by
    cases trace.location with
    | none => exact .none
    | some location => exact .some ⟨rfl, rfl⟩
  expansion := List.forall₂_same.mpr fun c _ => .refl c

theorem Failure.SameButSpans.refl : (failure : Failure CompilationError) →
    failure.SameButSpans failure
  | .reported (.simple _ trace) => .reported (.simple (.refl trace))
  | .reported (.nested _ trace) => .reported (.nested (.refl trace))
  | .aborted abort => .aborted abort

/-- Passages that differ in their places only render as the same text. -/
theorem render_eq_of_sameButSpan (h : List.Forall₂ Passage.SameButSpan passages passages') :
    (Document.ofPassages passages').render = (Document.ofPassages passages).render := by
  have hcontents : passages'.map Passage.content = passages.map Passage.content := by
    induction h with
    | nil => rfl
    | cons hpassage _ ih => rw [List.map_cons, List.map_cons, hpassage.content_eq, ih]
  rw [Document.render_ofPassages, Document.render_ofPassages, hcontents]

/-! ### Errors -/

namespace CompilationError.SameButSpans

theorem trace_sameButSpans (h : error.SameButSpans error') :
    error.trace.SameButSpans error'.trace := by
  cases h with
  | simple h => exact h
  | nested h => exact h

theorem withTrace (h : error.SameButSpans error') (htrace : trace.SameButSpans trace') :
    (error.withTrace trace).SameButSpans (error'.withTrace trace') := by
  cases h with
  | simple _ => exact .simple htrace
  | nested _ => exact .nested htrace

theorem message_eq (h : error.SameButSpans error') : error'.message = error.message := by
  cases h <;> rfl

theorem category_eq (h : error.SameButSpans error') : error'.category = error.category := by
  cases h <;> rfl

theorem cause?_eq (h : error.SameButSpans error') : error'.cause? = error.cause? := by
  cases h <;> rfl

/-- Errors that escape from calls still differ in places only. -/
theorem escapeFrom (h : error.SameButSpans error') (hcall : c.SameButSpan c') :
    (error.escapeFrom c).SameButSpans (error'.escapeFrom c') := by
  obtain ⟨hlocation, hexpansion⟩ := h.trace_sameButSpans
  -- Either both errors have a location and record the calls, or both are located at them.
  generalize hl : error.trace.location = l, hl' : error'.trace.location = l' at hlocation
  cases hlocation with
  | none =>
    rw [escapeFrom_of_unlocated hl, escapeFrom_of_unlocated hl']
    exact h.withTrace ⟨.some ⟨hcall.origin_eq, rfl⟩, hexpansion⟩
  | some hsame =>
    rw [escapeFrom_of_located hl, escapeFrom_of_located hl']
    exact h.withTrace ⟨.some hsame, List.rel_append hexpansion (.cons hcall .nil)⟩

end CompilationError.SameButSpans

/-- Failures that escape from calls still differ in places only. -/
theorem Failure.SameButSpans.map_escapeFrom (h : failure.SameButSpans failure')
    (hcall : c.SameButSpan c') :
    (failure.map (·.escapeFrom c)).SameButSpans (failure'.map (·.escapeFrom c')) := by
  cases h with
  | reported h => exact .reported (h.escapeFrom hcall)
  | aborted abort => exact .aborted abort

/-! ### Runs -/

namespace Run.Matches

variable {α β γ δ : Type} {onValue : α → β → Prop} {onNext : γ → δ → Prop}
variable {run : Run α} {run' : Run β} {next : α → Run γ} {next' : β → Run δ}

theorem events_sameButSpan (h : run.Matches onValue run') :
    List.Forall₂ Event.SameButSpan run.events run'.events := by
  cases h with
  | ok hevents _ => exact hevents
  | error hevents _ => exact hevents

theorem refl {onValue : α → α → Prop} (hrefl : ∀ value, onValue value value) (run : Run α) :
    run.Matches onValue run := by
  have hevents (events : List Event) : List.Forall₂ Event.SameButSpan events events :=
    List.forall₂_same.mpr fun event _ => .refl event
  obtain ⟨events, failure | value⟩ := run
  · exact .error (hevents events) (.refl failure)
  · exact .ok (hevents events) (hrefl value)

/-- One run after another, with the like in both places. -/
theorem bind (h : run.Matches onValue run')
    (hnext : ∀ value value', onValue value value' → (next value).Matches onNext (next' value')) :
    (run >>= next).Matches onNext (run' >>= next') := by
  cases h with
  | error hevents hfailure => exact .error hevents hfailure
  | @ok events events' value value' hevents hvalue =>
    have hrest := hnext value value' hvalue
    rw [mk_ok_bind, mk_ok_bind]
    generalize next value = rest, next' value' = rest' at hrest
    cases hrest with
    | ok hothers hlast => exact .ok (List.rel_append hevents hothers) hlast
    | error hothers hfailure => exact .error (List.rel_append hevents hothers) hfailure

/-- Errors that escape from calls which differ in their places only. -/
theorem mapError_escapeFrom (h : run.Matches onValue run') (hcall : c.SameButSpan c') :
    (run.mapError (·.escapeFrom c)).Matches onValue (run'.mapError (·.escapeFrom c')) := by
  cases h with
  | ok hevents hvalue => exact .ok hevents hvalue
  | error hevents hfailure => exact .error hevents (hfailure.map_escapeFrom hcall)

end Run.Matches

/-! ### Expansions -/

/-- What a provider is asked. -/
structure Query where
  /-- The provider's place in the registry. -/
  index : Nat
  function : String
  arguments : List Value
  /-- The directory of the calling document. -/
  directory : Path
  deriving DecidableEq

namespace Expander

/-- What providers were asked. -/
def queries (events : List Event) : List Query :=
  (invocations events).map fun (index, c) => ⟨index, c.function, c.arguments, c.origin.parent⟩

variable {e : Expander} {exhausted : Failure CompilationError} {room index : Nat}
variable {provider : Provider} {limit : Option Int} {capacity : Nat} {d d' : Document}

/-- Where records differ in places only, providers were asked the same. -/
theorem queries_eq_of_sameButSpan (h : List.Forall₂ Event.SameButSpan events events') :
    queries events' = queries events := by
  induction h with
  | nil => rfl
  | cons hevent _ ih =>
    cases hevent with
    | dispatched function provider => exact ih
    | including path => exact ih
    | expanding index start start' hcall =>
      refine congrArg₂ List.cons ?_ ih
      simp only [hcall.function_eq, hcall.arguments_eq, hcall.origin_eq]

/-- A provider is asked the same for calls that differ in their places only. -/
theorem carryOut_matches (h : c.SameButSpan c') :
    (carryOut index provider c).Matches Eq (carryOut index provider c') := by
  have hspan := h.isSome_span_eq
  rw [carryOut, carryOut, h.function_eq, h.arguments_eq, h.origin_eq]
  -- If one of the calls has no place, neither has the other one.
  cases hc : c.span with
  | none =>
    rw [hc, Option.isSome_none, Option.isSome_eq_false_iff, Option.isNone_iff_eq_none] at hspan
    rw [hspan]
    exact .refl (fun _ => rfl) _
  | some span =>
    rw [hc, Option.isSome_some, Option.isSome_iff_exists] at hspan
    obtain ⟨span', hc'⟩ := hspan
    rw [hc']
    have hrecord : (Run.record (.expanding index c span.start)).Matches Eq
        (Run.record (.expanding index c' span'.start)) :=
      .ok (.cons (.expanding _ _ _ h) .nil) rfl
    exact hrecord.bind fun _ _ _ => .refl (fun _ => rfl) _

/-- What is produced for calls that differ in their places only is the same document, and they fail
for the same reason. -/
theorem dispatch_matches (h : c.SameButSpan c') : (e.dispatch c).Matches Eq (e.dispatch c') := by
  rw [dispatch, dispatch, h.function_eq]
  cases e.registry.find c.function with
  | none => exact .refl (fun _ => rfl) _
  | some found =>
    obtain ⟨index, provider, descriptor⟩ := found
    -- The check looks at the arguments only.
    have hadmits : e.admits descriptor c' = e.admits descriptor c := by
      rw [admits, admits, h.arguments_eq]
    simp only [hadmits]
    refine .bind (Run.Matches.refl (fun value => Eq.refl value) _) fun _ _ _ => ?_
    cases e.admits descriptor c with
    | true => exact carryOut_matches h
    | false => exact .refl (fun _ => rfl) _

/-- Calls that differ in their places only are expanded into the same passages. -/
theorem expandCall_matches (h : c.SameButSpan c') :
    (e.expandCall exhausted room c).Matches Eq (e.expandCall exhausted room c') := by
  cases room with
  | zero => exact .mapError_escapeFrom (.refl (fun _ => rfl) _) h
  | succ room =>
    refine .mapError_escapeFrom (.bind (dispatch_matches h) ?_) h
    -- One document is produced for both calls, so nothing differs until an error escapes.
    rintro produced _ rfl
    exact .refl (fun _ => rfl) _

/-- Nodes that differ in their places only are expanded into passages that do. -/
theorem expandNodes_matches (h : List.Forall₂ Node.SameButSpan nodes nodes') :
    (expandNodes (e.expandCall exhausted room) nodes).Matches (List.Forall₂ Passage.SameButSpan)
      (expandNodes (e.expandCall exhausted room) nodes') := by
  induction h with
  | nil => exact .ok .nil .nil
  | cons hnode _ ih =>
    cases hnode with
    | text htext => exact ih.bind fun _ _ hrest => .ok .nil (.cons htext hrest)
    | call hcall =>
      refine (expandCall_matches hcall).bind ?_
      rintro passages _ rfl
      have hsame : List.Forall₂ Passage.SameButSpan passages passages :=
        List.forall₂_same.mpr fun t _ => .refl t
      exact ih.bind fun _ _ hrest => .ok .nil (List.rel_append hsame hrest)

/-- **Places serve reports only.** For documents that differ in nothing but the places of their
nodes, an expander asks the same providers the same in the same order. Either both expansions end
with passages, the same except for places and with the same text; or both end with an error, with
the same message, category and cause and the same except for the places in its trace; or the same
condition breaks off both. -/
theorem expand_sameButSpans (e : Expander) (limit : Option Int) (capacity : Nat)
    (h : d.SameButSpans d') :
    queries (e.expand limit capacity d').events = queries (e.expand limit capacity d).events ∧
      ((∃ passages passages', (e.expand limit capacity d).result = .ok passages ∧
          (e.expand limit capacity d').result = .ok passages' ∧
          List.Forall₂ Passage.SameButSpan passages passages' ∧
          (Document.ofPassages passages').render = (Document.ofPassages passages).render) ∨
        (∃ error error', (e.expand limit capacity d).result = .error (.reported error) ∧
          (e.expand limit capacity d').result = .error (.reported error') ∧
          error.SameButSpans error' ∧ error'.message = error.message ∧
          error'.category = error.category ∧ error'.cause? = error.cause?) ∨
        ∃ abort, (e.expand limit capacity d).result = .error (.aborted abort) ∧
          (e.expand limit capacity d').result = .error (.aborted abort)) := by
  have hruns : (e.expand limit capacity d).Matches (List.Forall₂ Passage.SameButSpan)
      (e.expand limit capacity d') := by
    rw [expand_eq_expandNodes, expand_eq_expandNodes]
    exact expandNodes_matches h
  refine ⟨queries_eq_of_sameButSpan hruns.events_sameButSpan, ?_⟩
  generalize e.expand limit capacity d = run, e.expand limit capacity d' = run' at hruns
  cases hruns with
  | ok _ hpassages => exact .inl ⟨_, _, rfl, rfl, hpassages, render_eq_of_sameButSpan hpassages⟩
  | error _ hfailure =>
    cases hfailure with
    | reported h =>
      exact .inr (.inl ⟨_, _, rfl, rfl, h, h.message_eq, h.category_eq, h.cause?_eq⟩)
    | aborted abort => exact .inr (.inr ⟨abort, rfl, rfl⟩)

/-- A call of `outer` in the third line of its document. -/
def shiftedOuter : Call :=
  ⟨"outer", [], .here, some ⟨⟨3, 1, 20⟩, ⟨3, 12, 31⟩⟩⟩

/-- Where the limit does not allow for what calls of `outer` ask for, the error tells where the call
stands, and all else is the same. -/
theorem expand_sameButSpans_shiftedOuter :
    (⟨[.call (.bare "outer")]⟩ : Document).SameButSpans ⟨[.call shiftedOuter]⟩ ∧
      (relay.expand (some 1) 8 ⟨[.call (.bare "outer")]⟩).result =
        .error (.reported (.simple (.depthExceeded 1)
          ⟨some ⟨.here, some ⟨.origin, .origin⟩, ""⟩, [.bare "outer"]⟩)) ∧
      (relay.expand (some 1) 8 ⟨[.call shiftedOuter]⟩).result ≠
        (relay.expand (some 1) 8 ⟨[.call (.bare "outer")]⟩).result ∧
      queries (relay.expand (some 1) 8 ⟨[.call shiftedOuter]⟩).events =
        [⟨0, "outer", [], .here⟩] ∧
      ∃ error, (relay.expand (some 1) 8 ⟨[.call shiftedOuter]⟩).result =
          .error (.reported error) ∧ error.message = "expansion depth limit (1) exceeded" := by
  have hsame : (⟨[.call (.bare "outer")]⟩ : Document).SameButSpans ⟨[.call shiftedOuter]⟩ :=
    .cons (.call ⟨rfl, rfl, rfl, rfl⟩) .nil
  have hresult : (relay.expand (some 1) 8 ⟨[.call (.bare "outer")]⟩).result =
      .error (.reported (.simple (.depthExceeded 1)
        ⟨some ⟨.here, some ⟨.origin, .origin⟩, ""⟩, [.bare "outer"]⟩)) := by decide
  refine ⟨hsame, hresult, by decide, ?_⟩
  obtain ⟨hqueries, houtcome⟩ := expand_sameButSpans relay (some 1) 8 hsame
  refine ⟨hqueries.trans (by decide), ?_⟩
  obtain ⟨_, _, hok, -⟩ | ⟨error, error', herror, herror', -, hmessage, -⟩ | ⟨_, habort, -⟩ :=
    houtcome
  · cases hresult.symm.trans hok
  · cases hresult.symm.trans herror
    exact ⟨error', herror', hmessage⟩
  · cases hresult.symm.trans habort

end Expander

end Transclude
