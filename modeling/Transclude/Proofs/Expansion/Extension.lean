import Transclude.Proofs.Expansion.Invocation

/-!
# Expanders that carry out more

An expander may carry out, besides all calls that another one carries out, some that the other one
turns away: it checks less, or it knows more providers. Its expansions go the way of the other one's
up to the first call that the other one fails at. If there is no such call, or if it fails at that
call just the same, both go the same way to the end.

## Main definitions

* `Expander.FailsWhere` — an expansion fails at a call that has some property

## Main results

* `Expander.Extends.expand_eq` — with no such call an expander that carries out more does the same
* `Expander.Extends.events_isPrefix_expand`, `Expander.Extends.invocations_isPrefix_expand` — what
  is recorded is always recorded first by an expander that carries out more
* `Expander.FailsWhere.expand_eq` — nor does it do anything else if a call fails just the same
* `Expander.FailsWhere.exists_front` — what stands in front of a call that an expansion fails at
-/

namespace Transclude.Expander

/-- The expansion of a document fails at the call `c`, within the calls `around` it, and the call
has the property `p`. -/
def FailsWhere (e : Expander) (p : Call → Prop) (limit : Option Int) (capacity : Nat) (d : Document)
    (around : List Call) (c : Call) : Prop :=
  p c ∧ ∃ events failure,
    e.StopsAt (initialRoom limit capacity) d.nodes events around c (.failed failure)

variable {e e' : Expander} {p : Call → Prop} {limit : Option Int} {capacity : Nat} {d : Document}
variable {around : List Call} {c : Call} {fault : Fault}

namespace Extends

/-- If no call with the property fails, and no other one is treated differently, an expander that
carries out more does the same. -/
theorem expand_eq (h : e.Extends e') (hsame : ∀ c, ¬ p c → e'.dispatch c = e.dispatch c)
    (hnone : ¬ ∃ around c, e.FailsWhere p limit capacity d around c) :
    e'.expand limit capacity d = e.expand limit capacity d := by
  rw [expand_eq_expandNodes e']
  obtain ⟨events, passages, hcompletes, hrun⟩ | ⟨events, around, c, stop, hstops, hrun⟩ :=
    e.expand_cases limit capacity d
  · rw [hrun, (hcompletes.of_extends h (Nat.le_refl _)).expandNodes_eq]
  · have hc (failure : Failure CompilationError) (hstop : stop = .failed failure) :
        e'.dispatch c = e.dispatch c :=
      hsame c fun hp => hnone ⟨around, c, hp, events, failure, hstop ▸ hstops⟩
    rw [hrun, (hstops.of_extends h (Nat.le_refl _) (fun _ => rfl) hc).expandNodes_eq]

/-- What an expansion records is recorded first by an expander that carries out more. -/
theorem events_isPrefix_expand (h : e.Extends e') :
    (e.expand limit capacity d).events <+: (e'.expand limit capacity d).events := by
  rw [expand_eq_expandNodes e']
  obtain ⟨events, passages, hcompletes, hrun⟩ | ⟨events, around, c, stop, hstops, hrun⟩ :=
    e.expand_cases limit capacity d
  · simp only [hrun, (hcompletes.of_extends h (Nat.le_refl _)).expandNodes_eq, List.prefix_rfl]
  · rw [hrun]
    exact hstops.events_isPrefix_of_extends h (Nat.le_refl _)

/-- The providers that are asked in an expansion are asked first by an expander that carries out
more, for the same calls in the same order. -/
theorem invocations_isPrefix_expand (h : e.Extends e') :
    invocations (e.expand limit capacity d).events <+:
      invocations (e'.expand limit capacity d).events :=
  h.events_isPrefix_expand.filterMap _

end Extends

namespace FailsWhere

/-- A fault that the call fails with is located there, and the calls around are recorded. -/
theorem expand_of_fault (h : e.FailsWhere p limit capacity d around c)
    (hfault : (e.dispatch c).result = .error (.reported (.ofFault fault))) :
    (e.expand limit capacity d).result =
      .error (.reported (.simple fault ⟨some ⟨c.origin, c.span, ""⟩, around.reverse⟩)) := by
  obtain ⟨-, events, failure, hstops⟩ := h
  cases hstops.dispatch_eq.symm.trans hfault
  rw [hstops.expand_of_fault]

/-- If the call fails just the same with an expander that carries out more, everything is the
same. -/
theorem expand_eq (h : e.FailsWhere p limit capacity d around c) (hextends : e.Extends e')
    (hc : e'.dispatch c = e.dispatch c) :
    e'.expand limit capacity d = e.expand limit capacity d := by
  obtain ⟨-, events, failure, hstops⟩ := h
  have hstops' := hstops.of_extends hextends (Nat.le_refl _) nofun fun _ _ => hc
  rw [expand_eq_expandNodes, expand_eq_expandNodes, hstops.expandNodes_eq, hstops'.expandNodes_eq]

/-- The calls at the places in front of the call, in preorder, are all carried out, and these places
are the same in the tree of an expander that carries out more. -/
theorem exists_front (h : e.FailsWhere p limit capacity d around c) (hextends : e.Extends e') :
    ∃ before, e'.ComesTo (initialRoom limit capacity) d.nodes before (around ++ [c]) ∧
      (∀ earlier ∈ lastCalls before, ∃ produced, (e.dispatch earlier).result = .ok produced) ∧
      invoked (e.expand limit capacity d).events =
        lastCalls before ++ invoked (e.dispatch c).events := by
  obtain ⟨-, events, failure, hstops⟩ := h
  obtain ⟨before, hcomes, hcomes', hevents⟩ := hstops.exists_comesTo_of_extends hextends
  refine ⟨before, hcomes', ?_, ?_⟩
  · intro earlier hearlier
    obtain ⟨place, hplace, hlast⟩ := List.mem_filterMap.mp hearlier
    obtain ⟨-, front, last, produced, rfl, hproduced⟩ := hcomes.2 place hplace
    obtain rfl : last = earlier := by simpa using hlast
    exact ⟨produced, hproduced⟩
  · rw [expand_eq_expandNodes, hstops.expandNodes_eq, hevents, invoked_append,
      invoked_record_lastCalls hcomes.2]
    rfl

end FailsWhere

end Transclude.Expander
