import Mathlib.Data.List.Forall2
import Transclude.Proofs.Expansion.Dispatch
import Transclude.Proofs.Expansion.Progress
import Transclude.Provider.Fixed

/-!
# Which providers are asked, and when

The record of an expansion shows when a provider was asked to carry out a call. It is the first
provider exposing the function that is asked, and it is asked only if there is room for the call and
the check of signatures lets the call pass. Since an expansion goes through the places of the tree
in preorder up to the first one where a call is not carried out, the calls that providers were asked
for are those of the tree, or of the part of it in front of that place, in preorder and each once.
What the providers answer settles the whole run.

## Main definitions

* `Registry.Exposes` — a provider is the first one that exposes a function
* `Expander.invocations`, `Expander.invoked` — the calls that providers were asked to carry out
* `Expander.Justified` — the provider that a call goes to may be asked, and its answer is taken
* `Expander.Refuses` — a call is not given to any provider
* `Expander.FailsAt` — the ways that an expansion can fail at a call
* `Expander.AnswersAlike` — the providers of two expanders give the same answers

## Main results

* `Registry.exposes_of_find` — calls go to the first provider that exposes the function
* `Registry.find_eq_none_iff_not_mem_functionNames` — what cannot be called is not found
* `Expander.refuses_or_justified` — a call is refused, or one provider is asked for it once
* `Expander.AnswersAlike.expand_eq` — the answers of the providers settle an expansion
* `Expander.expand_invocations` — which providers are asked in an expansion, and how it ends
-/

namespace Transclude

namespace Registry

variable {r : Registry} {function : String} {index start : Nat} {provider : Provider}
variable {providers : List Provider} {descriptor : Descriptor}

/-- The provider at `index` exposes the function with the descriptor, and no provider in front of it
exposes the function. -/
structure Exposes (r : Registry) (function : String) (index : Nat) (provider : Provider)
    (descriptor : Descriptor) : Prop where
  provider_eq : r.providers[index]? = some provider
  mem : descriptor ∈ provider.functions
  name_eq : descriptor.name = function
  first : ∀ earlier ∈ r.providers.take index, ∀ other ∈ earlier.functions, other.name ≠ function

theorem describe_eq_none_iff :
    provider.describe function = none ↔ ∀ other ∈ provider.functions, other.name ≠ function := by
  simp [Provider.describe]

theorem exists_of_findFrom
    (h : findFrom start function providers = some (index, provider, descriptor)) :
    ∃ k, index = start + k ∧ providers[k]? = some provider ∧
      provider.describe function = some descriptor ∧
      ∀ earlier ∈ providers.take k, earlier.describe function = none := by
  induction providers generalizing start with
  | nil => cases h
  | cons first rest ih =>
    rw [findFrom] at h
    cases hfirst : first.describe function with
    | some found =>
      rw [hfirst] at h
      cases h
      exact ⟨0, rfl, rfl, hfirst, by simp⟩
    | none =>
      -- The first provider does not expose the function, and the search goes on behind it.
      rw [hfirst] at h
      obtain ⟨k, rfl, hprovider, hdescribe, hearlier⟩ := ih h
      refine ⟨k + 1, by omega, hprovider, hdescribe, ?_⟩
      rw [List.take_succ_cons]
      exact List.forall_mem_cons.mpr ⟨hfirst, hearlier⟩

/-- Calls go to the first provider that exposes the function. -/
theorem exposes_of_find (h : r.find function = some (index, provider, descriptor)) :
    r.Exposes function index provider descriptor := by
  obtain ⟨k, hindex, hprovider, hdescribe, hearlier⟩ := exists_of_findFrom h
  obtain rfl : index = k := by omega
  exact ⟨hprovider, List.mem_of_find?_eq_some hdescribe, by simpa using List.find?_some hdescribe,
    fun earlier hmem => describe_eq_none_iff.mp (hearlier earlier hmem)⟩

theorem mem_functionNames_iff :
    function ∈ r.functionNames ↔
      ∃ provider ∈ r.providers, ∃ other ∈ provider.functions, other.name = function := by
  simp only [functionNames, List.mem_mergeSort, List.mem_eraseDups, List.mem_map, List.mem_flatMap]
  constructor
  · rintro ⟨other, ⟨provider, hprovider, hother⟩, hname⟩
    exact ⟨provider, hprovider, other, hother, hname⟩
  · rintro ⟨provider, hprovider, other, hother, hname⟩
    exact ⟨other, ⟨provider, hprovider, hother⟩, hname⟩

/-- What cannot be called is not found. -/
theorem find_eq_none_iff_not_mem_functionNames :
    r.find function = none ↔ function ∉ r.functionNames := by
  simp [find_eq_none_iff, describe_eq_none_iff, mem_functionNames_iff]

end Registry

/-- The provider that was asked and the call that it was asked to carry out, if it is such a
step. -/
def Event.invocation? : Event → Option (Nat × Call)
  | expanding index call _ => some (index, call)
  | _ => none

namespace Expander

/-- The calls that providers were asked to carry out, each with the provider's place in the
registry. -/
def invocations (events : List Event) : List (Nat × Call) :=
  events.filterMap Event.invocation?

/-- The calls that providers were asked to carry out. -/
def invoked (events : List Event) : List Call :=
  (invocations events).map Prod.snd

/-- The provider at `index` is the first one that exposes the call's function, and the check of
signatures, if there is one, lets the call pass. What is produced for the call is what this provider
makes of the function, the arguments and the directory of the call's document. -/
def Justified (e : Expander) (index : Nat) (c : Call) : Prop :=
  ∃ provider descriptor, e.registry.Exposes c.function index provider descriptor ∧
    (e.strict = true → c.arguments.map Value.kind ∈ descriptor.signatures) ∧
    (e.dispatch c).result = (provider.invoke c.function c.arguments c.origin.parent).result

/-- A call is not given to any provider, and the failure tells why: the function cannot be called,
the check of signatures does not let the call pass, or the call has no place. -/
inductive Refuses (e : Expander) (c : Call) : Failure CompilationError → Prop
  | unknown (hunknown : c.function ∉ e.registry.functionNames) :
      e.Refuses c (.reported (.ofFault (.functionNotFound c.function)))
  | turnedAway {index provider descriptor}
      (hexposes : e.registry.Exposes c.function index provider descriptor)
      (hstrict : e.strict = true) (hkinds : c.arguments.map Value.kind ∉ descriptor.signatures) :
      e.Refuses c (.reported (.ofFault (.noSignature c.function)))
  | unplaced {index provider descriptor}
      (hexposes : e.registry.Exposes c.function index provider descriptor)
      (hkinds : e.strict = true → c.arguments.map Value.kind ∈ descriptor.signatures)
      (hspan : c.span = none) :
      e.Refuses c (.aborted .unplacedNode)

variable {e e' : Expander} {room depth index : Nat} {nodes : List Node}
variable {document produced : Document}
variable {events events' : List Event} {passages : List Passage} {around calls : List Call}
variable {c d : Call} {stop : Stop} {places before : List (List Call)} {descriptor : Descriptor}
variable {failure : Failure CompilationError} {log : List (Nat × Call)}

theorem invocations_append :
    invocations (events ++ events') = invocations events ++ invocations events' :=
  List.filterMap_append

theorem invoked_append : invoked (events ++ events') = invoked events ++ invoked events' := by
  simp [invoked, invocations_append]

theorem admits_iff :
    e.admits descriptor c = true ↔
      (e.strict = true → c.arguments.map Value.kind ∈ descriptor.signatures) := by
  rw [admits, Bool.or_eq_true, Descriptor.accepts_iff]
  cases e.strict <;> simp

/-- A call is refused, or exactly one provider is asked once to carry it out. -/
theorem refuses_or_justified (e : Expander) (c : Call) :
    (∃ failure, e.Refuses c failure ∧ (e.dispatch c).result = .error failure ∧
      invocations (e.dispatch c).events = []) ∨
      ∃ index, e.Justified index c ∧ invocations (e.dispatch c).events = [(index, c)] := by
  have hcases := e.dispatches_dispatch c
  generalize hrun : e.dispatch c = run at hcases
  cases hcases with
  | unknown hfind =>
    have hunknown := Registry.find_eq_none_iff_not_mem_functionNames.mp hfind
    exact .inl ⟨_, .unknown hunknown, rfl, rfl⟩
  | turnedAway hfind hadmits =>
    obtain ⟨hstrict, hkinds⟩ := Classical.not_imp.mp
      (mt admits_iff.mpr (Bool.eq_false_iff.mp hadmits))
    exact .inl ⟨_, .turnedAway (Registry.exposes_of_find hfind) hstrict hkinds, rfl, rfl⟩
  | unplaced hfind hadmits hspan =>
    have hexposes := Registry.exposes_of_find hfind
    exact .inl ⟨_, .unplaced hexposes (admits_iff.mp hadmits) hspan, rfl, rfl⟩
  | @carriedOut index provider descriptor span production hfind hadmits hspan hinvoke =>
    have hincluded : invocations (production.included.map .including) = [] := by
      simp [invocations, Event.invocation?, Function.comp_def]
    refine .inr ⟨index, ⟨provider, descriptor, Registry.exposes_of_find hfind,
      admits_iff.mp hadmits, by rw [hrun, hinvoke]⟩, ?_⟩
    exact congrArg ((index, c) :: ·) hincluded

/-- Where a call is carried out, one provider was asked to do so. -/
theorem invoked_of_produced (h : (e.dispatch c).result = .ok produced) :
    invoked (e.dispatch c).events = [c] := by
  obtain ⟨failure, -, hfailure, -⟩ | ⟨index, -, hinvocations⟩ := e.refuses_or_justified c
  · rw [h] at hfailure
    cases hfailure
  · rw [invoked, hinvocations]
    rfl

theorem mem_invoked_of_dispatch (h : e.dispatch c = ⟨events, .ok produced⟩) :
    c ∈ invoked events := by
  have hone : invoked (e.dispatch c).events = [c] := invoked_of_produced (by rw [h])
  rw [h] at hone
  simp [hone]

theorem invoked_record (h : ∀ c ∈ calls, ∃ produced, (e.dispatch c).result = .ok produced) :
    invoked (e.record calls) = calls := by
  induction calls with
  | nil => rfl
  | cons c calls ih =>
    obtain ⟨⟨produced, hc⟩, hcalls⟩ := List.forall_mem_cons.mp h
    rw [record, List.flatMap_cons, invoked_append, invoked_of_produced hc]
    exact congrArg (c :: ·) (ih hcalls)

/-- Of the calls at places where they are carried out, each is one that a provider was asked for. -/
theorem invoked_record_lastCalls (h : ∀ place ∈ places, e.CarriesOut room place) :
    invoked (e.record (lastCalls places)) = lastCalls places := by
  refine invoked_record fun c hc => ?_
  obtain ⟨place, hplace, hlast⟩ := List.mem_filterMap.mp hc
  obtain ⟨-, around, d, produced, rfl, hresult⟩ := h place hplace
  obtain rfl : d = c := by simpa using hlast
  exact ⟨produced, hresult⟩

theorem of_mem_dispatch (h : (index, d) ∈ invocations (e.dispatch c).events) :
    d = c ∧ e.Justified index c ∧ invocations (e.dispatch c).events = [(index, c)] := by
  obtain ⟨_, -, -, hnone⟩ | ⟨index', hjustified, hone⟩ := e.refuses_or_justified c
  · rw [hnone] at h
    cases h
  · obtain ⟨rfl, rfl⟩ : index = index' ∧ d = c := by simpa [hone] using h
    exact ⟨rfl, hjustified, hone⟩

/-- What is recorded of calls shows each provider that was asked, when its call is dispatched. -/
theorem mem_dispatch_of_mem_record (h : (index, c) ∈ invocations (e.record calls)) :
    (index, c) ∈ invocations (e.dispatch c).events := by
  obtain ⟨event, hevent, hinvocation⟩ := List.mem_filterMap.mp h
  obtain ⟨d, -, hd⟩ := List.mem_flatMap.mp hevent
  have hmem : (index, c) ∈ invocations (e.dispatch d).events :=
    List.mem_filterMap.mpr ⟨event, hd, hinvocation⟩
  obtain ⟨rfl, -, -⟩ := of_mem_dispatch hmem
  exact hmem

/-! ### The same answers -/

/-- The expanders check signatures alike, and their registries are made up of providers with the
same names and functions. Asked to carry out the calls, providers at the same place answer alike. -/
structure AnswersAlike (e e' : Expander) (log : List (Nat × Call)) : Prop where
  strict_eq : e'.strict = e.strict
  exposed : List.Forall₂ (fun p p' : Provider => p'.name = p.name ∧ p'.functions = p.functions)
    e.registry.providers e'.registry.providers
  answer {index : Nat} {c : Call} {p p' : Provider} (hmem : (index, c) ∈ log)
    (hprovider : e.registry.providers[index]? = some p)
    (hprovider' : e'.registry.providers[index]? = some p') :
    p'.invoke c.function c.arguments c.origin.parent =
      p.invoke c.function c.arguments c.origin.parent

/-- Registries that expose the same functions find providers at the same place. -/
theorem findFrom_of_exposed {providers providers' : List Provider} (function : String) (start : Nat)
    (h : List.Forall₂ (fun p p' : Provider => p'.name = p.name ∧ p'.functions = p.functions)
      providers providers') :
    Registry.findFrom start function providers' = none ∧
        Registry.findFrom start function providers = none ∨
      ∃ k p p' descriptor, providers[k]? = some p ∧ providers'[k]? = some p' ∧ p'.name = p.name ∧
        Registry.findFrom start function providers = some (start + k, p, descriptor) ∧
        Registry.findFrom start function providers' = some (start + k, p', descriptor) := by
  induction h generalizing start with
  | nil => exact .inl ⟨rfl, rfl⟩
  | @cons p p' rest rest' hfirst _ ih =>
    have hdescribe : p'.describe function = p.describe function := by
      rw [Provider.describe, Provider.describe, hfirst.2]
    cases hfound : p.describe function with
    | some descriptor =>
      exact .inr ⟨0, p, p', descriptor, rfl, rfl, hfirst.1, by simp [Registry.findFrom, hfound],
        by simp [Registry.findFrom, hdescribe, hfound]⟩
    | none =>
      simp only [Registry.findFrom, hdescribe, hfound]
      obtain hnone | ⟨k, p, p', descriptor, hp, hp', hname, hfind, hfind'⟩ := ih (start + 1)
      · exact .inl hnone
      · rw [Nat.add_right_comm] at hfind hfind'
        exact .inr ⟨k + 1, p, p', descriptor, hp, hp', hname, hfind, hfind'⟩

/-- Where providers answer alike, the same becomes of a call. -/
theorem AnswersAlike.dispatch_eq (h : AnswersAlike e e' log)
    (hlog : invocations (e.dispatch c).events ⊆ log) : e'.dispatch c = e.dispatch c := by
  obtain ⟨hnone', hnone⟩ | ⟨k, p, p', descriptor, hp, hp', hname, hfind, hfind'⟩ :=
    findFrom_of_exposed c.function 0 h.exposed
  · simp [dispatch, Registry.find, hnone, hnone']
  rw [Nat.zero_add] at hfind hfind'
  have hadmits : e'.admits descriptor c = e.admits descriptor c := by
    rw [admits, admits, h.strict_eq]
  -- The provider is asked only if the call passes the check and has a place.
  have hcarry (hpasses : e.admits descriptor c = true) : carryOut k p' c = carryOut k p c := by
    cases hspan : c.span with
    | none => simp [carryOut, hspan]
    | some span =>
      have hmem : (k, c) ∈ invocations (e.dispatch c).events := by
        simp [dispatch, Registry.find, hfind, hpasses, carryOut, hspan, Run.record, invocations,
          Event.invocation?]
      simp [carryOut, hspan, h.answer (hlog hmem) hp hp']
  simp only [dispatch, Registry.find, hfind, hfind', hadmits, hname]
  cases hpasses : e.admits descriptor c with
  | false => rfl
  | true => rw [hcarry hpasses]

/-- What is completed is completed in the same way, if the same becomes of all calls that providers
were asked to carry out. -/
theorem Completes.of_dispatch_eq (h : e.Completes room nodes events passages)
    (heq : ∀ c ∈ invoked events, e'.dispatch c = e.dispatch c) :
    e'.Completes room nodes events passages := by
  induction h with
  | nil => exact .nil
  | text _ ih => exact .text (ih heq)
  | @call _ c _ events _ inner _ others _ hdispatch _ _ ihinner ihrest =>
    -- A provider was asked for the call, since it produced a document.
    simp only [invoked_append, List.mem_append, or_assoc, or_imp, forall_and] at heq
    obtain ⟨hevents, hinner, hothers⟩ := heq
    exact .call ((hevents c (mem_invoked_of_dispatch hdispatch)).trans hdispatch) (ihinner hinner)
      (ihrest hothers)

/-- An expansion stops in the same way, if the same becomes of all calls that providers were asked
to carry out, and of the one that it stops at. -/
theorem StopsAt.of_dispatch_eq (h : e.StopsAt room nodes events around d stop)
    (heq : ∀ c ∈ invoked events, e'.dispatch c = e.dispatch c)
    (hd : ∀ failure, stop = .failed failure → e'.dispatch d = e.dispatch d) :
    e'.StopsAt room nodes events around d stop := by
  induction h with
  | exhausted => exact .exhausted
  | failed hdispatch => exact .failed ((hd _ rfl).trans hdispatch)
  | behindText _ ih => exact .behindText (ih heq hd)
  | @within _ c _ events _ inner _ _ _ hdispatch _ ih =>
    simp only [invoked_append, List.mem_append, or_imp, forall_and] at heq
    exact .within ((heq.1 c (mem_invoked_of_dispatch hdispatch)).trans hdispatch) (ih heq.2 hd)
  | @behindCall _ c _ events _ inner _ others _ _ _ hdispatch hinner _ ih =>
    simp only [invoked_append, List.mem_append, or_assoc, or_imp, forall_and] at heq
    obtain ⟨hevents, hinner', hothers⟩ := heq
    exact .behindCall ((hevents c (mem_invoked_of_dispatch hdispatch)).trans hdispatch)
      (hinner.of_dispatch_eq hinner') (ih hothers hd)

/-! ### Expansions -/

/-- An expansion fails at the call `c`, within the calls `around` it: there is no room for the call,
it is refused, or the provider that it goes to fails. The failure is `cause` before it escapes from
any call, and `asked` are the calls that a provider is asked to carry out there. -/
inductive FailsAt (e : Expander) (limit : Option Int) (capacity : Nat) (around : List Call)
    (c : Call) : (cause : Failure CompilationError) → (asked : List Call) → Prop
  | exhausted (hroom : around.length = initialRoom limit capacity) :
      e.FailsAt limit capacity around c (exhaustion limit capacity) []
  | refused {cause} (hroom : around.length < initialRoom limit capacity) (h : e.Refuses c cause) :
      e.FailsAt limit capacity around c cause []
  | failed {index cause} (hroom : around.length < initialRoom limit capacity)
      (h : e.Justified index c) (hresult : (e.dispatch c).result = .error cause) :
      e.FailsAt limit capacity around c cause [c]

variable {limit : Option Int} {capacity : Nat}

/-- Where an expansion stops it fails in one of these ways. -/
theorem StopsAt.failsAt
    (h : e.StopsAt (initialRoom limit capacity) nodes events around c stop) :
    e.FailsAt limit capacity around c (stop.failure (exhaustion limit capacity))
      (invoked (stop.events e c)) := by
  cases stop with
  | exhausted => exact .exhausted h.length_around
  | failed failure =>
    obtain ⟨failure', hrefuses, hresult, hnone⟩ | ⟨index, hjustified, hone⟩ :=
      e.refuses_or_justified c
    · rw [h.dispatch_eq] at hresult
      cases hresult
      simp only [Stop.events, invoked, hnone]
      exact .refused h.length_around_lt hrefuses
    · simp only [Stop.events, invoked, hone]
      exact .failed h.length_around_lt hjustified h.dispatch_eq

/-- A call that is refused because its function is not found is one of a function that cannot be
called. -/
theorem refuses_functionNotFound_iff {name : String} :
    e.Refuses c (.reported (.ofFault (.functionNotFound name))) ↔
      name = c.function ∧ name ∉ e.registry.functionNames := by
  constructor
  · intro h
    cases h with
    | unknown hunknown => exact ⟨rfl, hunknown⟩
  · rintro ⟨rfl, hunknown⟩
    exact .unknown hunknown

theorem dispatch_of_unknown (h : c.function ∉ e.registry.functionNames) :
    (e.dispatch c).result = .error (.reported (.ofFault (.functionNotFound c.function))) := by
  have hfind := Registry.find_eq_none_iff_not_mem_functionNames.mpr h
  simp only [dispatch, hfind]
  rfl

/-- An expansion fails where it comes to a call of a function that cannot be called. -/
theorem ComesTo.expand_of_unknown
    (h : e.ComesTo (initialRoom limit capacity) document.nodes before (around ++ [c]))
    (hroom : around.length < initialRoom limit capacity)
    (hunknown : c.function ∉ e.registry.functionNames) :
    (e.expand limit capacity document).result =
      .error (.reported (.simple (.functionNotFound c.function)
        ⟨some ⟨c.origin, c.span, ""⟩, around.reverse⟩)) := by
  obtain ⟨events, hstops⟩ := h.exists_stopsAt hroom (dispatch_of_unknown hunknown)
  rw [hstops.expand_of_fault]

/-- The record of an expansion shows each provider that was asked, when its call is dispatched. -/
theorem mem_dispatch_of_mem_expand
    (h : (index, c) ∈ invocations (e.expand limit capacity document).events) :
    (index, c) ∈ invocations (e.dispatch c).events := by
  obtain ⟨events, passages, hcompletes, hrun⟩ | ⟨events, around, d, stop, hstops, hrun⟩ :=
    e.expand_cases limit capacity document
  · rw [hrun, hcompletes.events_eq] at h
    exact mem_dispatch_of_mem_record h
  · obtain ⟨before, -, hevents⟩ := hstops.exists_comesTo
    rw [hrun, hevents, invocations_append, List.mem_append] at h
    rcases h with h | h
    · exact mem_dispatch_of_mem_record h
    · cases stop with
      | exhausted => cases h
      | failed failure =>
        obtain ⟨rfl, -, -⟩ := of_mem_dispatch h
        exact h

/-- Expanders whose providers answer alike expand alike. -/
theorem AnswersAlike.expand_eq
    (h : AnswersAlike e e' (invocations (e.expand limit capacity document).events)) :
    e'.expand limit capacity document = e.expand limit capacity document := by
  have hinvoked (c : Call) (hc : c ∈ invoked (e.expand limit capacity document).events) :
      e'.dispatch c = e.dispatch c := by
    obtain ⟨⟨index, c⟩, hmem, rfl⟩ := List.mem_map.mp hc
    obtain ⟨-, -, hone⟩ := of_mem_dispatch (mem_dispatch_of_mem_expand hmem)
    exact h.dispatch_eq (by simpa [hone] using hmem)
  rw [expand_eq_expandNodes e']
  obtain ⟨events, passages, hcompletes, hrun⟩ | ⟨events, around, d, stop, hstops, hrun⟩ :=
    e.expand_cases limit capacity document
  · rw [hrun] at hinvoked
    rw [hrun, (hcompletes.of_dispatch_eq hinvoked).expandNodes_eq]
  · rw [hrun] at hinvoked h
    -- A call that fails is not carried out, but what is recorded of it stands at the end.
    have hd (failure : Failure CompilationError) (hstop : stop = .failed failure) :
        e'.dispatch d = e.dispatch d := by
      obtain ⟨before, -, hevents⟩ := hstops.exists_comesTo
      refine h.dispatch_eq ?_
      rw [hevents, invocations_append, hstop]
      exact List.subset_append_right ..
    rw [hrun, (hstops.of_dispatch_eq hinvoked hd).expandNodes_eq]

/-- An expansion that is completed has asked for all calls of the tree. -/
theorem invoked_of_expand_ok
    (h : (e.expand limit capacity document).result = .ok passages)
    (hdepth : initialRoom limit capacity ≤ depth) :
    invoked (e.expand limit capacity document).events =
      lastCalls (e.preorder depth document.nodes) := by
  obtain ⟨events, passages, hcompletes, hrun⟩ | ⟨events, around, c, stop, -, hrun⟩ :=
    e.expand_cases limit capacity document
  · have hdeeper := hcompletes.mono hdepth
    rw [hrun, hdeeper.events_eq, invoked_record_lastCalls hdeeper.carriesOut]
  · rw [hrun] at h
    cases h

/-- An expansion that fails has asked for the calls in front of the place where it fails, and
perhaps for the call there. -/
theorem exists_failsAt_of_expand_error
    (h : (e.expand limit capacity document).result = .error failure) :
    ∃ before around c cause asked,
      e.ComesTo (initialRoom limit capacity) document.nodes before (around ++ [c]) ∧
      e.FailsAt limit capacity around c cause asked ∧
      failure = cause.map ((around ++ [c]).foldr CompilationError.escapeFrom) ∧
      invoked (e.expand limit capacity document).events = lastCalls before ++ asked := by
  obtain ⟨events, passages, -, hrun⟩ | ⟨events, around, c, stop, hstops, hrun⟩ :=
    e.expand_cases limit capacity document
  · rw [hrun] at h
    cases h
  · obtain ⟨before, hcomes, hevents⟩ := hstops.exists_comesTo
    rw [hrun] at h
    refine ⟨before, around, c, _, _, hcomes, hstops.failsAt, by simpa using h.symm, ?_⟩
    rw [hrun, hevents, invoked_append, invoked_record_lastCalls hcomes.2]

/-- The calls that providers are asked for stand at the first places of the tree in preorder, and
none of them too deep. -/
theorem exists_places_of_expand (e : Expander) (limit : Option Int) (capacity : Nat)
    (document : Document) :
    ∃ places, places <+: e.preorder (initialRoom limit capacity) document.nodes ∧
      invoked (e.expand limit capacity document).events = lastCalls places ∧
      ∀ around c, around ++ [c] ∈ places → around.length < initialRoom limit capacity := by
  have hroom {around : List Call} {c : Call}
      (h : e.CarriesOut (initialRoom limit capacity) (around ++ [c])) :
      around.length < initialRoom limit capacity := by
    simpa [Nat.succ_le_iff] using h.1
  obtain ⟨events, passages, hcompletes, hrun⟩ | ⟨events, around, c, stop, -, hrun⟩ :=
    e.expand_cases limit capacity document
  · refine ⟨_, List.prefix_rfl, ?_, fun around c hmem => hroom (hcompletes.carriesOut _ hmem)⟩
    exact invoked_of_expand_ok (by rw [hrun]) (Nat.le_refl _)
  · have hresult : (e.expand limit capacity document).result = .error _ := congrArg Run.result hrun
    obtain ⟨before, around, c, cause, asked, ⟨hstarts, hbefore⟩, hfails, -, hinvoked⟩ :=
      exists_failsAt_of_expand_error hresult
    have hfront := (List.prefix_append before [around ++ [c]]).trans hstarts
    have hbeforeRoom around' c' (hmem : around' ++ [c'] ∈ before) := hroom (hbefore _ hmem)
    cases hfails with
    | exhausted _ => exact ⟨before, hfront, by simpa using hinvoked, hbeforeRoom⟩
    | refused _ _ => exact ⟨before, hfront, by simpa using hinvoked, hbeforeRoom⟩
    | failed hless _ _ =>
      -- The call that fails was given to a provider as well, and there was room for it.
      refine ⟨_, hstarts, by simp [hinvoked, lastCalls], fun around' c' hmem => ?_⟩
      rcases List.mem_append.mp hmem with hmem | hmem
      · exact hbeforeRoom around' c' hmem
      · obtain ⟨rfl, -⟩ := List.append_inj' (List.mem_singleton.mp hmem) rfl
        exact hless

/-- **Providers are asked in preorder, and only when they may be.** In every expansion, each call
that a provider is asked for goes to the first provider that exposes its function, with the call's
arguments and the directory of its document, and passes the check of signatures. The calls are
those at the first places of the tree in preorder, none of them within as many calls as the limit
says. An expansion that is completed has asked for all calls of the tree, each once. One that fails
has asked for those in front of the place where it fails, perhaps for the call there, and for no
other. It comes to a call of a function that cannot be called only to fail there, and no other call
is refused for that reason. What the providers answer when they are asked settles all the rest. -/
theorem expand_invocations (e : Expander) (limit : Option Int) (capacity : Nat) (d : Document) :
    (∀ index c, (index, c) ∈ invocations (e.expand limit capacity d).events →
      e.Justified index c) ∧
    (∃ places, places <+: e.preorder (initialRoom limit capacity) d.nodes ∧
      invoked (e.expand limit capacity d).events = lastCalls places ∧
      ∀ around c, around ++ [c] ∈ places → ∀ bound ∈ limit, (around.length : Int) < bound) ∧
    (∀ passages, (e.expand limit capacity d).result = .ok passages →
      ∀ depth, initialRoom limit capacity ≤ depth →
        invoked (e.expand limit capacity d).events = lastCalls (e.preorder depth d.nodes)) ∧
    (∀ failure, (e.expand limit capacity d).result = .error failure →
      ∃ before around c cause asked,
        e.ComesTo (initialRoom limit capacity) d.nodes before (around ++ [c]) ∧
        e.FailsAt limit capacity around c cause asked ∧
        failure = cause.map ((around ++ [c]).foldr CompilationError.escapeFrom) ∧
        invoked (e.expand limit capacity d).events = lastCalls before ++ asked) ∧
    (∀ c name, e.Refuses c (.reported (.ofFault (.functionNotFound name))) ↔
      name = c.function ∧ name ∉ e.registry.functionNames) ∧
    (∀ before around c, e.ComesTo (initialRoom limit capacity) d.nodes before (around ++ [c]) →
      around.length < initialRoom limit capacity → c.function ∉ e.registry.functionNames →
        (e.expand limit capacity d).result =
          .error (.reported (.simple (.functionNotFound c.function)
            ⟨some ⟨c.origin, c.span, ""⟩, around.reverse⟩))) ∧
    ∀ e', AnswersAlike e e' (invocations (e.expand limit capacity d).events) →
      e'.expand limit capacity d = e.expand limit capacity d := by
  have hjustified (index : Nat) (c : Call)
      (h : (index, c) ∈ invocations (e.expand limit capacity d).events) : e.Justified index c :=
    (of_mem_dispatch (mem_dispatch_of_mem_expand h)).2.1
  refine ⟨hjustified, ?_, fun _ h _ => invoked_of_expand_ok h,
    fun _ => exists_failsAt_of_expand_error, fun _ _ => refuses_functionNotFound_iff,
    fun _ _ _ => ComesTo.expand_of_unknown, fun _ => AnswersAlike.expand_eq⟩
  obtain ⟨places, hstarts, hinvoked, hplaces⟩ := e.exists_places_of_expand limit capacity d
  exact ⟨places, hstarts, hinvoked, fun around c hmem =>
    lt_of_lt_initialRoom (hplaces around c hmem)⟩

/-- Two providers expose a function. The first one asks for another function, which the second one
exposes. -/
def overlapping : Expander :=
  ⟨⟨[.ofNodes [[]] [("outer", [.call (.bare "inner")])],
    .ofNodes [[]] [("outer", []), ("inner", [])]]⟩, true⟩

/-- With a call of an unknown function between two of a function that two providers expose, the
first provider is asked for the call in front, the second one for what it asks for, and nobody for
the call behind. -/
theorem expand_invocations_overlapping :
    overlapping.Justified 0 (.bare "outer") ∧ overlapping.Justified 1 (.bare "inner") ∧
      (overlapping.expand (some 2) defaultCapacity
        ⟨[.call (.bare "outer"), .call (.bare "missing"), .call (.bare "outer")]⟩).result =
        .error (.reported (.simple (.functionNotFound "missing")
          ⟨some ⟨.here, some ⟨.origin, .origin⟩, ""⟩, []⟩)) := by
  obtain ⟨hjustified, -, -, -, -, hunknown, -⟩ := expand_invocations overlapping (some 2)
    defaultCapacity ⟨[.call (.bare "outer"), .call (.bare "missing"), .call (.bare "outer")]⟩
  refine ⟨hjustified 0 _ (by decide), hjustified 1 _ (by decide),
    hunknown [[.bare "outer"], [.bare "outer", .bare "inner"]] [] (.bare "missing")
      ⟨⟨_, rfl⟩, List.forall_mem_cons.mpr ⟨?_, List.forall_mem_singleton.mpr ?_⟩⟩ (by decide)
      (Registry.find_eq_none_iff_not_mem_functionNames.mp rfl)⟩
  · exact ⟨by decide, [], .bare "outer", _, rfl, rfl⟩
  · exact ⟨by decide, [.bare "outer"], .bare "inner", _, rfl, rfl⟩

end Expander

end Transclude
