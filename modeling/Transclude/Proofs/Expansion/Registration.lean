import Transclude.Proofs.Expansion.Extension

/-!
# Registering further providers

Calls go to the first provider that exposes their function. So providers that are registered behind
all others are asked only for functions that could not be called before, and what worked without
them goes on to work in the same way. They can make a difference to one kind of expansion only, one
that stops at a call of a function which cannot be called; and then all that has been done up to
that call is still done first.

## Main definitions

* `Registry.append`, `Expander.withProviders` — the same with further providers, registered last
* `Expander.StoppedAsUnknown` — an expansion stops at a call that no provider exposes the function
  of

## Main results

* `Registry.findFrom_append` — a lookup goes on among the further providers if it must
* `Expander.extends_withProviders` — all calls are carried out that were carried out before
* `Expander.expand_withProviders` — expansions with further providers and without them
-/

namespace Transclude

namespace Registry

variable {r : Registry} {others : List Provider} {function : String}
variable {found : Nat × Provider × Descriptor}

/-- The registry with further providers, registered behind all others. -/
def append (r : Registry) (others : List Provider) : Registry :=
  ⟨r.providers ++ others⟩

/-- A function that the first providers do not expose is looked for among those behind them. -/
theorem findFrom_append (start : Nat) (function : String) (providers others : List Provider) :
    findFrom start function (providers ++ others) =
      (findFrom start function providers).or
        (findFrom (start + providers.length) function others) := by
  induction providers generalizing start with
  | nil => rfl
  | cons first rest ih =>
    rw [List.cons_append, findFrom, findFrom]
    cases first.describe function with
    | some descriptor => rfl
    | none =>
      -- The search goes on behind the first provider, one place further.
      simp only [ih, List.length_cons]
      rw [Nat.add_right_comm, Nat.add_assoc]

/-- What is found is found in the same place. -/
theorem find_append_of_some (h : r.find function = some found) :
    (r.append others).find function = some found := by
  rw [find] at h
  rw [find, append, findFrom_append, h, Option.some_or]

/-- What is not found is looked for among the further providers. -/
theorem find_append_of_none (h : r.find function = none) :
    (r.append others).find function = findFrom r.size function others := by
  rw [find] at h
  rw [find, append, findFrom_append, h, Option.none_or, Nat.zero_add, size]

/-- What neither can call cannot be called. -/
theorem find_append_eq_none (h : function ∉ r.functionNames)
    (hothers : function ∉ (Registry.mk others).functionNames) :
    (r.append others).find function = none := by
  rw [find_append_of_none (find_eq_none_iff_not_mem_functionNames.mpr h), findFrom_eq_none_iff]
  exact find_eq_none_iff.mp (find_eq_none_iff_not_mem_functionNames.mpr hothers)

end Registry

namespace Expander

/-- The expander with further providers, registered behind all others. -/
def withProviders (e : Expander) (others : List Provider) : Expander :=
  { e with registry := e.registry.append others }

/-- The expansion of a document stops at the call `c`, within the calls `around` it, because no
provider exposes the call's function. -/
def StoppedAsUnknown (e : Expander) (limit : Option Int) (capacity : Nat) (d : Document)
    (around : List Call) (c : Call) : Prop :=
  e.FailsWhere (fun c => c.function ∉ e.registry.functionNames) limit capacity d around c

variable {e : Expander} {others : List Provider} {limit : Option Int} {capacity index : Nat}
variable {d : Document} {around : List Call} {c : Call}

/-- The same becomes of calls of functions that could be called before. -/
theorem dispatch_withProviders (others : List Provider)
    (h : c.function ∈ e.registry.functionNames) :
    (e.withProviders others).dispatch c = e.dispatch c := by
  obtain ⟨found, hfound⟩ : ∃ found, e.registry.find c.function = some found := by
    rw [← Option.ne_none_iff_exists', Ne, Registry.find_eq_none_iff_not_mem_functionNames]
    exact not_not_intro h
  simp only [dispatch, withProviders, Registry.find_append_of_some hfound, hfound]
  rfl

/-- The same becomes of calls of functions that still cannot be called. -/
theorem dispatch_withProviders_of_unknown (h : c.function ∉ e.registry.functionNames)
    (hothers : c.function ∉ (Registry.mk others).functionNames) :
    (e.withProviders others).dispatch c = e.dispatch c := by
  have hfind := Registry.find_eq_none_iff_not_mem_functionNames.mpr h
  simp only [dispatch, withProviders, Registry.find_append_eq_none h hothers, hfind]

theorem dispatch_events_of_unknown (h : c.function ∉ e.registry.functionNames) :
    (e.dispatch c).events = [] := by
  have hfind := Registry.find_eq_none_iff_not_mem_functionNames.mpr h
  simp only [dispatch, hfind]
  rfl

/-- With further providers all calls are carried out that were carried out before. -/
theorem extends_withProviders (e : Expander) (others : List Provider) :
    e.Extends (e.withProviders others) where
  dispatch_eq {c} produced hproduced := by
    by_cases h : c.function ∈ e.registry.functionNames
    · exact dispatch_withProviders others h
    · -- Nothing was produced for a call of a function that could not be called.
      cases (dispatch_of_unknown h).symm.trans hproduced
  events_isPrefix c := by
    by_cases h : c.function ∈ e.registry.functionNames
    · simp only [dispatch_withProviders others h, List.prefix_rfl]
    · rw [dispatch_events_of_unknown h]
      exact List.nil_prefix

/-- Only providers of the registry are asked. -/
theorem index_lt_of_mem_expand (h : (index, c) ∈ invocations (e.expand limit capacity d).events) :
    index < e.registry.size := by
  obtain ⟨-, ⟨provider, descriptor, hexposes, -, -⟩, -⟩ :=
    of_mem_dispatch (mem_dispatch_of_mem_expand h)
  exact (List.getElem?_eq_some_iff.mp hexposes.provider_eq).1

/-- **Registering further providers last changes nothing that worked.** Unless an expansion stops at
a call of a function that no provider exposes, it is the same with further providers behind all
others: with all that is recorded, and so without the further providers being asked. If it stops at
such a call, what has been asked of providers is still asked first, in the same order, and nothing
at all changes unless one of the further providers exposes that function. -/
theorem expand_withProviders (e : Expander) (others : List Provider) (limit : Option Int)
    (capacity : Nat) (d : Document) :
    ((¬ ∃ around c, e.StoppedAsUnknown limit capacity d around c) →
      (e.withProviders others).expand limit capacity d = e.expand limit capacity d) ∧
    (∀ around c, e.StoppedAsUnknown limit capacity d around c →
      (e.expand limit capacity d).result =
        .error (.reported (.simple (.functionNotFound c.function)
          ⟨some ⟨c.origin, c.span, ""⟩, around.reverse⟩)) ∧
      invocations (e.expand limit capacity d).events <+:
        invocations ((e.withProviders others).expand limit capacity d).events ∧
      (c.function ∉ (Registry.mk others).functionNames →
        (e.withProviders others).expand limit capacity d = e.expand limit capacity d)) ∧
    ∀ index c, (index, c) ∈ invocations (e.expand limit capacity d).events →
      index < e.registry.size := by
  have hextends := e.extends_withProviders others
  refine ⟨hextends.expand_eq fun _ h => dispatch_withProviders others (Classical.not_not.mp h), ?_,
    fun _ _ => index_lt_of_mem_expand⟩
  intro around c h
  have hresult := FailsWhere.expand_of_fault h (dispatch_of_unknown h.1)
  refine ⟨hresult, hextends.invocations_isPrefix_expand, fun hothers => ?_⟩
  exact FailsWhere.expand_eq h hextends (dispatch_withProviders_of_unknown h.1 hothers)

/-- Calls of `outer` produce a call of `missing`, which no provider exposes. -/
def gapped : Expander :=
  ⟨⟨[.ofNodes [[]] [("outer", [.call (.bare "missing")]), ("plain", [])]]⟩, true⟩

/-- A provider that exposes `plain` as well, and a function that nothing asks for. -/
def shadowed : Provider :=
  .ofNodes [[]] [("plain", [.call (.bare "plain")]), ("spare", [])]

/-- That a further provider exposes `plain` as well changes nothing, nor does it help where
`missing` is asked for. A provider of `missing` is asked after the one that was asked before. -/
theorem expand_withProviders_gapped :
    (¬ ∃ around c, gapped.StoppedAsUnknown none 8 ⟨[.call (.bare "plain")]⟩ around c) ∧
      (gapped.withProviders [shadowed]).expand none 8 ⟨[.call (.bare "plain")]⟩ =
        gapped.expand none 8 ⟨[.call (.bare "plain")]⟩ ∧
      gapped.StoppedAsUnknown none 8 ⟨[.call (.bare "outer")]⟩ [.bare "outer"] (.bare "missing") ∧
      (gapped.withProviders [shadowed]).expand none 8 ⟨[.call (.bare "outer")]⟩ =
        gapped.expand none 8 ⟨[.call (.bare "outer")]⟩ ∧
      (gapped.expand none 8 ⟨[.call (.bare "outer")]⟩).result =
        .error (.reported (.simple (.functionNotFound "missing")
          ⟨some ⟨.here, some ⟨.origin, .origin⟩, ""⟩, [.bare "outer"]⟩)) ∧
      invocations (gapped.expand none 8 ⟨[.call (.bare "outer")]⟩).events <+:
        [(0, .bare "outer"), (1, .bare "missing")] := by
  have hplain : gapped.dispatch (.bare "plain") =
      ⟨[.dispatched "plain" "NodeProvider", .expanding 0 (.bare "plain") .origin], .ok ⟨[]⟩⟩ := rfl
  have houter : gapped.dispatch (.bare "outer") =
      ⟨[.dispatched "outer" "NodeProvider", .expanding 0 (.bare "outer") .origin],
        .ok ⟨[.call (.bare "missing")]⟩⟩ := rfl
  have hunknown : "missing" ∉ gapped.registry.functionNames :=
    Registry.find_eq_none_iff_not_mem_functionNames.mp rfl
  have hothers : "missing" ∉ (Registry.mk [shadowed]).functionNames :=
    Registry.find_eq_none_iff_not_mem_functionNames.mp rfl
  have hunstopped : ¬ ∃ around c,
      gapped.StoppedAsUnknown none 8 ⟨[.call (.bare "plain")]⟩ around c := by
    rintro ⟨around, c, -, events, failure, hstops⟩
    have hcompletes : gapped.Completes 8 [.call (.bare "plain")] _ _ := .call hplain .nil .nil
    exact hcompletes.not_stopsAt hstops
  have hstopped : gapped.StoppedAsUnknown none 8 ⟨[.call (.bare "outer")]⟩
      [.bare "outer"] (.bare "missing") :=
    ⟨hunknown, _, _, .within houter (.failed rfl)⟩
  obtain ⟨hsame, -, -⟩ := expand_withProviders gapped [shadowed] none 8 ⟨[.call (.bare "plain")]⟩
  obtain ⟨-, huseless, -⟩ :=
    expand_withProviders gapped [shadowed] none 8 ⟨[.call (.bare "outer")]⟩
  obtain ⟨-, huseful, -⟩ := expand_withProviders gapped [.ofNodes [[]] [("missing", [])]] none 8
    ⟨[.call (.bare "outer")]⟩
  obtain ⟨hresult, -, hunchanged⟩ := huseless _ _ hstopped
  obtain ⟨-, hprefix, -⟩ := huseful _ _ hstopped
  exact ⟨hunstopped, hsame hunstopped, hstopped, hunchanged hothers, hresult, hprefix⟩

end Expander

end Transclude
