import Transclude.Proofs.Expansion.Extension
import Transclude.Proofs.Expansion.Rewriting

/-!
# The check of signatures

Arguments may be checked against the signatures that a function declares, before its provider is
asked. A call that is turned away by this check fails, and no provider hears of it; all other calls
go the same way as without the check. So the check cuts an expansion short, at the first call that
it turns away, and changes nothing else.

## Main definitions

* `Registry.checkingExpander` — what expands calls with the check
* `Registry.TurnsAway` — the check turns a call away
* `Registry.StoppedByCheck` — the check is what an expansion stops for

## Main results

* `Registry.extends_expander` — without the check all calls are carried out that are with it
* `Registry.stoppedByCheck_iff` — where the check stops an expansion
* `Registry.StoppedByCheck.expand_eq` — how an expansion that the check stops ends
* `Registry.StoppedByCheck.not_mem_invoked` — no provider is asked for the call that it stops at
* `Registry.expand_of_checked` — an expansion with the check compared with one without it
-/

namespace Transclude.Registry

open Expander

/-- What expands calls and checks their arguments against the declared signatures. -/
def checkingExpander (r : Registry) : Expander :=
  ⟨r, true⟩

/-- The check turns a call away: the kinds of its arguments are none of the signatures that are
declared by the first provider that exposes its function. -/
def TurnsAway (r : Registry) (c : Call) : Prop :=
  ∃ index provider descriptor, r.find c.function = some (index, provider, descriptor) ∧
    c.arguments.map Value.kind ∉ descriptor.signatures

/-- The check is what the expansion of a document stops for: it turns away the call `c`, which the
expansion has come to within the calls `around` it. -/
def StoppedByCheck (r : Registry) (limit : Option Int) (capacity : Nat) (d : Document)
    (around : List Call) (c : Call) : Prop :=
  r.checkingExpander.FailsWhere r.TurnsAway limit capacity d around c

variable {r : Registry} {limit : Option Int} {capacity : Nat} {d : Document} {around : List Call}
variable {c : Call} {index : Nat}

/-- A call that is turned away fails before any provider is asked for it. -/
theorem TurnsAway.exists_dispatch_eq (h : r.TurnsAway c) :
    ∃ name, r.checkingExpander.dispatch c = ⟨[.dispatched c.function name],
        .error (.reported (.ofFault (.noSignature c.function)))⟩ ∧
      [.dispatched c.function name] <+: (r.expander.dispatch c).events := by
  obtain ⟨index, provider, descriptor, hfind, hkinds⟩ := h
  have haccepts : descriptor.accepts c.arguments = false := by
    rw [← Bool.not_eq_true, Descriptor.accepts_iff]
    exact hkinds
  refine ⟨provider.name, ?_, ?_⟩
  · simp [dispatch, checkingExpander, hfind, admits, haccepts, Run.record, Run.failWith, Run.fail,
      Run.ofResult]
  · simp only [dispatch, expander, hfind]
    exact Run.events_isPrefix_bind (Run.record (.dispatched c.function provider.name)) _

theorem TurnsAway.dispatch_eq (h : r.TurnsAway c) : (r.checkingExpander.dispatch c).result =
    .error (.reported (.ofFault (.noSignature c.function))) := by
  obtain ⟨name, hdispatch, -⟩ := h.exists_dispatch_eq
  rw [hdispatch]

theorem TurnsAway.invocations_eq (h : r.TurnsAway c) :
    invocations (r.checkingExpander.dispatch c).events = [] := by
  obtain ⟨name, hdispatch, -⟩ := h.exists_dispatch_eq
  rw [hdispatch]
  rfl

/-- A call that is not turned away goes the same way without the check. -/
theorem dispatch_expander_of_not_turnsAway (h : ¬ r.TurnsAway c) :
    r.expander.dispatch c = r.checkingExpander.dispatch c := by
  cases hfind : r.find c.function with
  | none => simp [dispatch, expander, checkingExpander, hfind]
  | some found =>
    obtain ⟨index, provider, descriptor⟩ := found
    have hkinds : c.arguments.map Value.kind ∈ descriptor.signatures := by
      by_contra hnone
      exact h ⟨index, provider, descriptor, hfind, hnone⟩
    have haccepts : descriptor.accepts c.arguments = true := Descriptor.accepts_iff.mpr hkinds
    simp [dispatch, expander, checkingExpander, hfind, admits, haccepts]

/-- A call that is carried out with the check has arguments that fit a declared signature. -/
theorem exists_exposes_of_produced {produced : Document}
    (h : (r.checkingExpander.dispatch c).result = .ok produced) :
    ∃ index provider descriptor, r.Exposes c.function index provider descriptor ∧
      c.arguments.map Value.kind ∈ descriptor.signatures := by
  obtain ⟨index, provider, descriptor, span, hfind, hadmits, -, -⟩ := exists_invoke_of_dispatch h
  exact ⟨index, provider, descriptor, exposes_of_find hfind, admits_iff.mp hadmits rfl⟩

/-- Without the check all calls are carried out that are carried out with it. -/
theorem extends_expander (r : Registry) : r.checkingExpander.Extends r.expander where
  dispatch_eq {c} produced hproduced := by
    apply dispatch_expander_of_not_turnsAway
    -- Nothing is produced for a call that is turned away.
    intro hturned
    cases hturned.dispatch_eq.symm.trans hproduced
  events_isPrefix c := by
    by_cases h : r.TurnsAway c
    · obtain ⟨name, hdispatch, hprefix⟩ := h.exists_dispatch_eq
      rw [hdispatch]
      exact hprefix
    · simp only [dispatch_expander_of_not_turnsAway h, List.prefix_rfl]

/-- The check stops an expansion exactly where the expansion comes, with room left, to a call that
is turned away. -/
theorem stoppedByCheck_iff :
    r.StoppedByCheck limit capacity d around c ↔
      r.TurnsAway c ∧ around.length < initialRoom limit capacity ∧ ∃ before,
        r.checkingExpander.ComesTo (initialRoom limit capacity) d.nodes before (around ++ [c]) := by
  constructor
  · rintro ⟨hturned, events, failure, hstops⟩
    obtain ⟨before, hcomes, -⟩ := hstops.exists_comesTo
    exact ⟨hturned, hstops.length_around_lt, before, hcomes⟩
  · rintro ⟨hturned, hroom, before, hcomes⟩
    obtain ⟨events, hstops⟩ := hcomes.exists_stopsAt hroom hturned.dispatch_eq
    exact ⟨hturned, events, _, hstops⟩

namespace StoppedByCheck

/-- It is reported at the call that no signature fits, together with the calls around it. -/
theorem expand_eq (h : r.StoppedByCheck limit capacity d around c) :
    (r.checkingExpander.expand limit capacity d).result =
      .error (.reported (.simple (.noSignature c.function)
        ⟨some ⟨c.origin, c.span, ""⟩, around.reverse⟩)) :=
  FailsWhere.expand_of_fault h h.1.dispatch_eq

/-- The first provider that exposes the function declares no signature that fits. -/
theorem exists_exposes (h : r.StoppedByCheck limit capacity d around c) :
    ∃ index provider descriptor, r.Exposes c.function index provider descriptor ∧
      c.arguments.map Value.kind ∉ descriptor.signatures := by
  obtain ⟨⟨index, provider, descriptor, hfind, hkinds⟩, -⟩ := h
  exact ⟨index, provider, descriptor, exposes_of_find hfind, hkinds⟩

/-- In front of the call, in preorder of the tree without the check, stand calls with arguments that
fit, and these are the calls that providers are asked for. -/
theorem exists_front (h : r.StoppedByCheck limit capacity d around c) :
    ∃ before, r.expander.ComesTo (initialRoom limit capacity) d.nodes before (around ++ [c]) ∧
      (∀ earlier ∈ lastCalls before, ∃ produced,
        (r.checkingExpander.dispatch earlier).result = .ok produced) ∧
      invoked (r.checkingExpander.expand limit capacity d).events = lastCalls before := by
  obtain ⟨before, hcomes, hbefore, hinvoked⟩ := FailsWhere.exists_front h r.extends_expander
  refine ⟨before, hcomes, hbefore, ?_⟩
  simpa [invoked, h.1.invocations_eq] using hinvoked

/-- No provider is asked for the call. -/
theorem not_mem_invoked (h : r.StoppedByCheck limit capacity d around c) :
    c ∉ invoked (r.checkingExpander.expand limit capacity d).events := by
  obtain ⟨before, -, hbefore, hinvoked⟩ := h.exists_front
  rw [hinvoked]
  -- The same call in front of it would have been turned away there.
  intro hmem
  obtain ⟨produced, hproduced⟩ := hbefore c hmem
  cases h.1.dispatch_eq.symm.trans hproduced

end StoppedByCheck

/-- **The check only ever cuts an expansion short.** An expansion that the check does not stop is
the same without it, with all that is recorded. If the check stops it, then at the first call in
preorder of which the arguments fit no signature that the first provider exposing the function
declares. That is reported there, with the calls around; no provider is asked for that call, and the
providers that are asked before are asked first without the check, for the same calls in order. -/
theorem expand_of_checked (r : Registry) (limit : Option Int) (capacity : Nat) (d : Document) :
    ((¬ ∃ around c, r.StoppedByCheck limit capacity d around c) →
      r.expander.expand limit capacity d = r.checkingExpander.expand limit capacity d) ∧
    ∀ around c, r.StoppedByCheck limit capacity d around c →
      (∃ index provider descriptor, r.Exposes c.function index provider descriptor ∧
        c.arguments.map Value.kind ∉ descriptor.signatures) ∧
      (r.checkingExpander.expand limit capacity d).result =
        .error (.reported (.simple (.noSignature c.function)
          ⟨some ⟨c.origin, c.span, ""⟩, around.reverse⟩)) ∧
      (∃ before,
        before ++ [around ++ [c]] <+: r.expander.preorder (initialRoom limit capacity) d.nodes ∧
        (∀ earlier ∈ lastCalls before, ∃ index provider descriptor,
          r.Exposes earlier.function index provider descriptor ∧
          earlier.arguments.map Value.kind ∈ descriptor.signatures) ∧
        invoked (r.checkingExpander.expand limit capacity d).events = lastCalls before) ∧
      c ∉ invoked (r.checkingExpander.expand limit capacity d).events ∧
      invocations (r.checkingExpander.expand limit capacity d).events <+:
        invocations (r.expander.expand limit capacity d).events := by
  refine ⟨?_, ?_⟩
  · exact r.extends_expander.expand_eq fun _ => dispatch_expander_of_not_turnsAway
  · intro around c h
    obtain ⟨before, hcomes, hbefore, hinvoked⟩ := h.exists_front
    refine ⟨h.exists_exposes, h.expand_eq, ⟨before, hcomes.1, ?_, hinvoked⟩, h.not_mem_invoked,
      r.extends_expander.invocations_isPrefix_expand⟩
    intro earlier hearlier
    obtain ⟨produced, hproduced⟩ := hbefore earlier hearlier
    exact exists_exposes_of_produced hproduced

/-- The first provider that exposes `inner` wants a path, and only a later one takes no arguments.
Calls of `outer` produce a call of `inner` without arguments. -/
def picky : Registry :=
  ⟨[.ofNodes [[]] [("outer", [.call (.bare "inner")]), ("plain", [])],
    .ofNodes [[.path]] [("inner", [])], .ofNodes [[]] [("inner", [])]]⟩

/-- A call with fitting arguments is of no concern to the check, and one that is produced with
others stops the expansion, though a later provider would take it. -/
theorem expand_of_checked_picky :
    (¬ ∃ around c, picky.StoppedByCheck (some 1) 8 ⟨[.call (.bare "plain")]⟩ around c) ∧
      picky.expander.expand (some 1) 8 ⟨[.call (.bare "plain")]⟩ =
        picky.checkingExpander.expand (some 1) 8 ⟨[.call (.bare "plain")]⟩ ∧
      picky.StoppedByCheck none 8 ⟨[.call (.bare "outer")]⟩ [.bare "outer"] (.bare "inner") ∧
      (picky.checkingExpander.expand none 8 ⟨[.call (.bare "outer")]⟩).result =
        .error (.reported (.simple (.noSignature "inner")
          ⟨some ⟨.here, some ⟨.origin, .origin⟩, ""⟩, [.bare "outer"]⟩)) ∧
      invocations (picky.checkingExpander.expand none 8 ⟨[.call (.bare "outer")]⟩).events <+:
        [(0, .bare "outer"), (1, .bare "inner")] := by
  have hplain : picky.checkingExpander.dispatch (.bare "plain") =
      ⟨[.dispatched "plain" "NodeProvider", .expanding 0 (.bare "plain") .origin], .ok ⟨[]⟩⟩ := rfl
  have houter : picky.checkingExpander.dispatch (.bare "outer") =
      ⟨[.dispatched "outer" "NodeProvider", .expanding 0 (.bare "outer") .origin],
        .ok ⟨[.call (.bare "inner")]⟩⟩ := rfl
  have hinner : picky.checkingExpander.dispatch (.bare "inner") =
      ⟨[.dispatched "inner" "NodeProvider"],
        .error (.reported (.ofFault (.noSignature "inner")))⟩ := rfl
  have hunstopped : ¬ ∃ around c,
      picky.StoppedByCheck (some 1) 8 ⟨[.call (.bare "plain")]⟩ around c := by
    rintro ⟨around, c, -, events, failure, hstops⟩
    have hcompletes : picky.checkingExpander.Completes 1 [.call (.bare "plain")] _ _ :=
      .call hplain .nil .nil
    exact hcompletes.not_stopsAt hstops
  have hstopped : picky.StoppedByCheck none 8 ⟨[.call (.bare "outer")]⟩
      [.bare "outer"] (.bare "inner") :=
    ⟨⟨1, _, _, rfl, by decide⟩, _, _, .within houter (.failed hinner)⟩
  obtain ⟨hsame, -⟩ := expand_of_checked picky (some 1) 8 ⟨[.call (.bare "plain")]⟩
  obtain ⟨-, hcut⟩ := expand_of_checked picky none 8 ⟨[.call (.bare "outer")]⟩
  obtain ⟨-, hresult, -, -, hprefix⟩ := hcut _ _ hstopped
  exact ⟨hunstopped, hsame hunstopped, hstopped, hresult, hprefix⟩

end Transclude.Registry
