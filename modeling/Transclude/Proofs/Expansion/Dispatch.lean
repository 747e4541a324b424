import Transclude.Expansion.Basic

/-!
# What can become of a call

A call is not found, is turned away, has no place, or is carried out by the first provider that
exposes its function. Nothing else can become of it.

## Main definitions

* `Expander.Dispatches` — the ways a call can go

## Main results

* `Expander.dispatches_dispatch` — every call goes one of these ways
* `Expander.exists_invoke_of_dispatch` — what is produced for a call comes from a provider
-/

namespace Transclude.Expander

/-- The ways that a call can go, with the record that is left. -/
inductive Dispatches (e : Expander) (c : Call) : Run Document → Prop
  /-- No provider exposes the function. -/
  | unknown (hfind : e.registry.find c.function = none) :
      e.Dispatches c ⟨[], .error (.reported (.ofFault (.functionNotFound c.function)))⟩
  /-- The signatures do not admit the arguments. -/
  | turnedAway {index provider descriptor}
      (hfind : e.registry.find c.function = some (index, provider, descriptor))
      (hadmits : e.admits descriptor c = false) :
      e.Dispatches c ⟨[.dispatched c.function provider.name],
        .error (.reported (.ofFault (.noSignature c.function)))⟩
  /-- The call has no place. -/
  | unplaced {index provider descriptor}
      (hfind : e.registry.find c.function = some (index, provider, descriptor))
      (hadmits : e.admits descriptor c = true) (hspan : c.span = none) :
      e.Dispatches c ⟨[.dispatched c.function provider.name], .error (.aborted .unplacedNode)⟩
  /-- The provider is asked. -/
  | carriedOut {index provider descriptor span production}
      (hfind : e.registry.find c.function = some (index, provider, descriptor))
      (hadmits : e.admits descriptor c = true) (hspan : c.span = some span)
      (hinvoke : provider.invoke c.function c.arguments c.origin.parent = production) :
      e.Dispatches c ⟨.dispatched c.function provider.name :: .expanding index c span.start ::
        production.included.map .including, production.result⟩

/-- Every call goes one of these ways. -/
theorem dispatches_dispatch (e : Expander) (c : Call) : e.Dispatches c (e.dispatch c) := by
  cases hfind : e.registry.find c.function with
  | none =>
    have hrun : e.dispatch c =
        ⟨[], .error (.reported (.ofFault (.functionNotFound c.function)))⟩ := by
      simp only [dispatch, hfind]
      rfl
    rw [hrun]
    exact .unknown hfind
  | some found =>
    obtain ⟨index, provider, descriptor⟩ := found
    cases hadmits : e.admits descriptor c with
    | false =>
      have hrun : e.dispatch c = ⟨[.dispatched c.function provider.name],
          .error (.reported (.ofFault (.noSignature c.function)))⟩ := by
        simp [dispatch, hfind, hadmits, Run.record, Run.failWith, Run.fail, Run.ofResult]
      rw [hrun]
      exact .turnedAway hfind hadmits
    | true =>
      cases hspan : c.span with
      | none =>
        have hrun : e.dispatch c =
            ⟨[.dispatched c.function provider.name], .error (.aborted .unplacedNode)⟩ := by
          simp [dispatch, hfind, hadmits, carryOut, hspan, Run.record, Run.fail, Run.ofResult]
        rw [hrun]
        exact .unplaced hfind hadmits hspan
      | some span =>
        let production := provider.invoke c.function c.arguments c.origin.parent
        have hrun : e.dispatch c =
            ⟨.dispatched c.function provider.name :: .expanding index c span.start ::
              production.included.map .including, production.result⟩ := by
          simp [dispatch, hfind, hadmits, carryOut, hspan, Run.record, production]
        rw [hrun]
        exact .carriedOut hfind hadmits hspan rfl

/-- What is produced for a call comes from the first provider that exposes its function. -/
theorem exists_invoke_of_dispatch {e : Expander} {c : Call} {produced : Document}
    (h : (e.dispatch c).result = .ok produced) :
    ∃ index provider descriptor span,
      e.registry.find c.function = some (index, provider, descriptor) ∧
      e.admits descriptor c = true ∧ c.span = some span ∧
      (provider.invoke c.function c.arguments c.origin.parent).result = .ok produced := by
  have hcases := e.dispatches_dispatch c
  generalize e.dispatch c = run at hcases h
  cases hcases with
  | unknown _ => cases h
  | turnedAway _ _ => cases h
  | unplaced _ _ _ => cases h
  | carriedOut hfind hadmits hspan hinvoke =>
    subst hinvoke
    exact ⟨_, _, _, _, hfind, hadmits, hspan, h⟩

end Transclude.Expander
