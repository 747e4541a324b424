import Transclude.Document.Render
import Transclude.Proofs.Expansion.Dispatch
import Transclude.Proofs.Expansion.Depth
import Transclude.Provider.Fixed
import Transclude.Provider.Include

/-!
# Expansion as rewriting

Expansion goes through the calls of a document from left to right and finishes each one before it
goes on. It need not: one may as well replace any call by what is produced for it, then any call of
the nodes that this leaves, and so on, until no call is left. The order makes no difference to where
this leads, to how many steps it takes, or to whether it ends at all.

What carries the proof is a count. Nodes that can be expanded completely are expanded by carrying
out a number of calls that the nodes alone determine, and a step, wherever it is taken, leaves nodes
that are expanded into the same passages by one call less.

## Main definitions

* `Registry.Produces` — a call may be replaced by the nodes of a document
* `Registry.Rewrites`, `Registry.RewritesIn` — one step of rewriting, and a number of them
* `Registry.Expands` — nodes are expanded into passages, by a number of calls

## Main results

* `Registry.Expands.unique` — the number of calls and the passages are determined
* `Registry.Rewrites.expands_iff`, `Registry.RewritesIn.expands_iff` — a step takes one call off
* `Registry.Expands.rewritesIn` — as many steps as there are calls lead to the passages
* `Expander.exists_expand_eq_ok_iff_expands` — expansion without a limit gives these passages
* `Expander.expand_normalForm` — expansion computes the one normal form of rewriting
-/

namespace Transclude

namespace Registry

/-- The first provider that exposes the function of a call produces the document for its arguments
and the directory of its file. Nothing is produced for a call without a place. -/
def Produces (r : Registry) (c : Call) (produced : Document) : Prop :=
  c.span.isSome ∧ ∃ index provider descriptor,
    r.find c.function = some (index, provider, descriptor) ∧
      (provider.invoke c.function c.arguments c.origin.parent).result = .ok produced

/-- One call, wherever it stands, is replaced by the nodes that are produced for it. -/
inductive Rewrites (r : Registry) : List Node → List Node → Prop
  | replace {c produced} (front behind : List Node) (hproduces : r.Produces c produced) :
      r.Rewrites (front ++ .call c :: behind) (front ++ produced.nodes ++ behind)

/-- So many steps of rewriting lead from some nodes to others. -/
inductive RewritesIn (r : Registry) : (steps : Nat) → List Node → List Node → Prop
  | refl {nodes} : r.RewritesIn 0 nodes nodes
  | head {steps nodes next last} (hstep : r.Rewrites nodes next)
      (hsteps : r.RewritesIn steps next last) : r.RewritesIn (steps + 1) nodes last

/-- Nodes are expanded completely: into the passages, and by carrying out so many calls. -/
inductive Expands (r : Registry) : List Node → (calls : Nat) → List Passage → Prop
  | nil : r.Expands [] 0 []
  | text {t rest calls passages} (hrest : r.Expands rest calls passages) :
      r.Expands (.text t :: rest) calls (t :: passages)
  | call {c rest produced inside passages calls following} (hproduces : r.Produces c produced)
      (hinside : r.Expands produced.nodes inside passages)
      (hrest : r.Expands rest calls following) :
      r.Expands (.call c :: rest) (inside + calls + 1) (passages ++ following)

variable {r : Registry} {c : Call} {t : Passage} {produced produced' : Document}
variable {nodes nodes' next last front behind rest : List Node}
variable {passages passages' : List Passage} {calls calls' steps steps' : Nat}

theorem Produces.unique (h : r.Produces c produced) (h' : r.Produces c produced') :
    produced = produced' := by
  obtain ⟨-, _, _, _, hfind, hinvoke⟩ := h
  obtain ⟨-, _, _, _, hfind', hinvoke'⟩ := h'
  rw [hfind] at hfind'
  cases hfind'
  rw [hinvoke] at hinvoke'
  exact Except.ok.inj hinvoke'

/-- A call produces the same wherever it stands in files of one directory. -/
theorem Produces.congr {c' : Call} (h : r.Produces c produced) (hspan : c'.span.isSome)
    (hfunction : c'.function = c.function) (harguments : c'.arguments = c.arguments)
    (hdirectory : c'.origin.parent = c.origin.parent) : r.Produces c' produced := by
  refine ⟨hspan, ?_⟩
  rw [hfunction, harguments, hdirectory]
  exact h.2

namespace Expands

/-- The passages, and the number of calls that it takes, are determined. -/
theorem unique (h : r.Expands nodes calls passages) (h' : r.Expands nodes calls' passages') :
    calls = calls' ∧ passages = passages' := by
  induction h generalizing calls' passages' with
  | nil =>
    cases h'
    exact ⟨rfl, rfl⟩
  | text _ ih =>
    cases h' with
    | text hrest =>
      obtain ⟨rfl, rfl⟩ := ih hrest
      exact ⟨rfl, rfl⟩
  | call hproduces _ _ ihinside ihrest =>
    cases h' with
    | call hproduces' hinside hrest =>
      obtain rfl := hproduces.unique hproduces'
      obtain ⟨rfl, rfl⟩ := ihinside hinside
      obtain ⟨rfl, rfl⟩ := ihrest hrest
      exact ⟨rfl, rfl⟩

theorem append (h : r.Expands front calls passages) (h' : r.Expands behind calls' passages') :
    r.Expands (front ++ behind) (calls + calls') (passages ++ passages') := by
  induction h with
  | nil => simpa using h'
  | text _ ih => exact .text ih
  | call hproduces hinside _ _ ih =>
    have hcall := Expands.call hproduces hinside ih
    rw [← List.append_assoc, ← Nat.add_assoc, Nat.add_right_comm] at hcall
    exact hcall

/-- Nodes side by side are expanded side by side. -/
theorem exists_of_append (h : r.Expands (front ++ behind) calls passages) :
    ∃ m n first second, r.Expands front m first ∧ r.Expands behind n second ∧
      calls = m + n ∧ passages = first ++ second := by
  induction front generalizing calls passages with
  | nil => exact ⟨0, calls, [], passages, .nil, h, by simp, rfl⟩
  | cons node front ih =>
    cases h with
    | text hrest =>
      obtain ⟨m, n, first, second, hfront, hbehind, rfl, rfl⟩ := ih hrest
      exact ⟨m, n, _, second, .text hfront, hbehind, rfl, rfl⟩
    | call hproduces hinside hrest =>
      obtain ⟨m, n, first, second, hfront, hbehind, rfl, rfl⟩ := ih hrest
      exact ⟨_, n, _, second, .call hproduces hinside hfront, hbehind, by omega, by simp⟩

/-- Passages are expanded already. -/
theorem ofPassages (passages : List Passage) :
    r.Expands (Document.ofPassages passages).nodes 0 passages := by
  induction passages with
  | nil => exact .nil
  | cons t passages ih => exact .text ih

/-- A passage stays where it stands among what the other nodes are expanded into. -/
theorem exists_of_text (h : r.Expands (front ++ .text t :: behind) calls passages) :
    ∃ m n first second, r.Expands front m first ∧ r.Expands behind n second ∧
      passages = first ++ t :: second := by
  obtain ⟨m, n, first, _, hfront, hbehind, -, rfl⟩ := exists_of_append h
  cases hbehind with
  | text hrest => exact ⟨m, _, first, _, hfront, hrest, rfl⟩

/-- To replace a call is to carry it out. -/
theorem call_iff (hproduces : r.Produces c produced) :
    r.Expands (.call c :: rest) (calls + 1) passages ↔
      r.Expands (produced.nodes ++ rest) calls passages := by
  constructor
  · intro h
    cases h with
    | call hproduces' hinside hrest =>
      obtain rfl := hproduces.unique hproduces'
      exact hinside.append hrest
  · intro h
    obtain ⟨_, _, _, _, hinside, hrest, rfl, rfl⟩ := exists_of_append h
    exact .call hproduces hinside hrest

end Expands

/-- A step takes one call off, and changes nothing of the outcome. -/
theorem Rewrites.expands_iff (h : r.Rewrites nodes next) :
    r.Expands nodes (calls + 1) passages ↔ r.Expands next calls passages := by
  obtain ⟨front, behind, hproduces⟩ := h
  rw [List.append_assoc]
  constructor
  · intro h
    obtain ⟨m, n, first, second, hfront, hcall, hcalls, rfl⟩ := h.exists_of_append
    -- The call itself counts, so the count behind the front is a successor.
    obtain _ | n := n
    · cases hcall
    obtain rfl : calls = m + n := by omega
    exact hfront.append ((Expands.call_iff hproduces).mp hcall)
  · intro h
    obtain ⟨m, n, first, second, hfront, hrest, rfl, rfl⟩ := h.exists_of_append
    exact hfront.append ((Expands.call_iff hproduces).mpr hrest)

/-- Where no call is counted, there is no step to take. -/
theorem Rewrites.not_expands_zero (h : r.Rewrites nodes next) : ¬ r.Expands nodes 0 passages := by
  obtain ⟨front, behind, -⟩ := h
  intro h
  obtain ⟨m, n, first, second, -, hcall, hcalls, -⟩ := h.exists_of_append
  obtain rfl : n = 0 := by omega
  cases hcall

/-- A step that can be taken among some nodes can be taken behind others. -/
theorem Rewrites.append_left (front : List Node) (h : r.Rewrites nodes next) :
    r.Rewrites (front ++ nodes) (front ++ next) := by
  obtain ⟨before, behind, hproduces⟩ := h
  have hstep := Rewrites.replace (front ++ before) behind hproduces
  rwa [List.append_assoc, List.append_assoc, List.append_assoc, ← List.append_assoc before] at hstep

namespace RewritesIn

theorem snoc (h : r.RewritesIn steps nodes next) (hstep : r.Rewrites next last) :
    r.RewritesIn (steps + 1) nodes last := by
  induction h with
  | refl => exact .head hstep .refl
  | head hfirst _ ih => exact .head hfirst (ih hstep)

/-- A number of steps takes as many calls off. -/
theorem expands_iff (h : r.RewritesIn steps nodes next) :
    r.Expands nodes (calls + steps) passages ↔ r.Expands next calls passages := by
  induction h with
  | refl => exact Iff.rfl
  | head hstep _ ih => exact hstep.expands_iff.trans ih

/-- There are no more steps than calls to be carried out. -/
theorem le_of_expands (h : r.RewritesIn steps nodes next)
    (hexpands : r.Expands nodes calls passages) : steps ≤ calls := by
  induction h generalizing calls with
  | refl => exact Nat.zero_le _
  | head hstep _ ih =>
    obtain _ | calls := calls
    · exact absurd hexpands hstep.not_expands_zero
    · exact Nat.succ_le_succ (ih (hstep.expands_iff.mp hexpands))

end RewritesIn

namespace Expands

/-- Where no call is counted, the nodes are passages. -/
theorem eq_ofPassages (h : r.Expands nodes 0 passages) :
    nodes = (Document.ofPassages passages).nodes := by
  generalize hcalls : 0 = calls at h
  induction h with
  | nil => rfl
  | text _ ih => exact congrArg _ (ih hcalls)
  | call => cases hcalls

/-- Where a call is counted, there is a step to take. -/
theorem exists_rewrites (h : r.Expands nodes (calls + 1) passages) :
    ∃ next, r.Rewrites nodes next := by
  generalize hcalls : calls + 1 = n at h
  induction h with
  | nil => cases hcalls
  | text _ ih =>
    obtain ⟨next, hstep⟩ := ih hcalls
    exact ⟨_, hstep.append_left [_]⟩
  | call hproduces => exact ⟨_, .replace [] _ hproduces⟩

/-- As many steps as there are calls to be carried out lead to the passages. -/
theorem rewritesIn (h : r.Expands nodes calls passages) :
    r.RewritesIn calls nodes (Document.ofPassages passages).nodes := by
  induction calls generalizing nodes with
  | zero =>
    rw [← h.eq_ofPassages]
    exact .refl
  | succ calls ih =>
    obtain ⟨next, hstep⟩ := h.exists_rewrites
    exact .head hstep (ih (hstep.expands_iff.mp h))

end Expands

/-- Steps that lead to passages are as many as there are calls to be carried out. -/
theorem rewritesIn_ofPassages_iff :
    r.RewritesIn steps nodes (Document.ofPassages passages).nodes ↔
      r.Expands nodes steps passages := by
  constructor
  · intro h
    simpa using h.expands_iff.mpr (Expands.ofPassages passages)
  · exact Expands.rewritesIn

/-- What expands calls without checking their arguments against signatures. -/
def expander (r : Registry) : Expander :=
  ⟨r, false⟩

/-- What may replace a call is what expansion without a check carries it out to. -/
theorem produces_iff_dispatch : r.Produces c produced ↔
    (r.expander.dispatch c).result = .ok produced := by
  constructor
  · rintro ⟨hspan, index, provider, descriptor, hfind, hinvoke⟩
    have hcases := r.expander.dispatches_dispatch c
    generalize r.expander.dispatch c = run at hcases ⊢
    cases hcases with
    | unknown hmissing => cases hfind.symm.trans hmissing
    | turnedAway _ hadmits => cases hadmits
    | unplaced _ _ hmissing => simp [hmissing] at hspan
    | carriedOut hfind' _ _ hproduction =>
      cases hfind.symm.trans hfind'
      rw [← hproduction]
      exact hinvoke
  · intro h
    obtain ⟨index, provider, descriptor, span, hfind, -, hspan, hinvoke⟩ :=
      Expander.exists_invoke_of_dispatch h
    exact ⟨by simp [hspan], index, provider, descriptor, hfind, hinvoke⟩

end Registry

/-- What expands calls of the standard registry over a file tree, without that check. -/
def FileTree.expander (files : FileTree) : Expander :=
  (Registry.standard files).expander

namespace Expander

variable {r : Registry} {nodes : List Node} {passages : List Passage} {events : List Event}
variable {room calls steps : Nat}

/-- What is completed is expanded. -/
theorem Completes.exists_expands (h : r.expander.Completes room nodes events passages) :
    ∃ calls, r.Expands nodes calls passages := by
  induction h with
  | nil => exact ⟨_, .nil⟩
  | text _ ih =>
    obtain ⟨_, hrest⟩ := ih
    exact ⟨_, .text hrest⟩
  | call hdispatch _ _ ihinner ihrest =>
    obtain ⟨_, hinside⟩ := ihinner
    obtain ⟨_, hrest⟩ := ihrest
    have hproduces := Registry.produces_iff_dispatch.mpr (congrArg Run.result hdispatch)
    exact ⟨_, .call hproduces hinside hrest⟩

/-- What is expanded is completed if there is room enough. -/
theorem exists_completes_of_expands (h : r.Expands nodes calls passages) :
    ∃ room events, r.expander.Completes room nodes events passages := by
  induction h with
  | nil => exact ⟨0, [], .nil⟩
  | text _ ih =>
    obtain ⟨room, events, hrest⟩ := ih
    exact ⟨room, events, .text hrest⟩
  | @call c _ produced _ _ _ _ hproduces _ _ ihinside ihrest =>
    obtain ⟨room, inner, hinside⟩ := ihinside
    obtain ⟨room', others, hrest⟩ := ihrest
    have hdispatch : r.expander.dispatch c = ⟨(r.expander.dispatch c).events, .ok produced⟩ := by
      rw [← Registry.produces_iff_dispatch.mp hproduces]
    exact ⟨max room room' + 1, _, .call hdispatch (hinside.mono (by omega)) (hrest.mono (by omega))⟩

/-- Expansion without a limit gives the passages if there is room enough. -/
theorem exists_expand_eq_ok_iff_expands :
    (∃ capacity, (r.expander.expand none capacity ⟨nodes⟩).result = .ok passages) ↔
      ∃ calls, r.Expands nodes calls passages := by
  constructor
  · rintro ⟨capacity, h⟩
    obtain ⟨_, hcompletes⟩ := completes_of_expand_none h
    exact hcompletes.exists_expands
  · rintro ⟨calls, h⟩
    obtain ⟨room, events, hcompletes⟩ := exists_completes_of_expands h
    exact ⟨room, by rw [expand_none, hcompletes.expandNodes_eq]⟩

/-- Once some steps have led to passages, no steps go on for ever. -/
theorem not_exists_endless_rewriting (h : r.Expands nodes calls passages) :
    ¬ ∃ sequence : Nat → List Node, sequence 0 = nodes ∧
      ∀ i, r.Rewrites (sequence i) (sequence (i + 1)) := by
  rintro ⟨sequence, rfl, hsequence⟩
  have hfirst (steps : Nat) : r.RewritesIn steps (sequence 0) (sequence steps) := by
    induction steps with
    | zero => exact .refl
    | succ steps ih => exact ih.snoc (hsequence steps)
  have hle := (hfirst (calls + 1)).le_of_expands h
  omega

/-- Steps that cannot be gone on with have carried out all calls. -/
theorem eq_ofPassages_of_maximal {last : List Node} (h : r.Expands nodes calls passages)
    (hsteps : r.RewritesIn steps nodes last) (hlast : ∀ next, ¬ r.Rewrites last next) :
    steps = calls ∧ last = (Document.ofPassages passages).nodes := by
  obtain ⟨left, rfl⟩ := Nat.exists_eq_add_of_le' (hsteps.le_of_expands h)
  have hrest := hsteps.expands_iff.mp h
  obtain _ | left := left
  · exact ⟨by omega, hrest.eq_ofPassages⟩
  · obtain ⟨next, hstep⟩ := hrest.exists_rewrites
    exact absurd hstep (hlast next)

/-- **Expansion computes the normal form of rewriting.** Expansion without a limit gives passages
exactly when some steps of rewriting, taken at any calls in any order, lead to these passages. Then
no steps go on for ever, and all that go on until none is left to take are as many and lead to the
same passages. Passages of the document come out as they are, each between what the nodes in front
of it and the nodes behind it are expanded into. The outcome is always rendered, as what its
passages hold. -/
theorem expand_normalForm (r : Registry) (nodes : List Node) (passages : List Passage) :
    ((∃ capacity, (r.expander.expand none capacity ⟨nodes⟩).result = .ok passages) ↔
      ∃ steps, r.RewritesIn steps nodes (Document.ofPassages passages).nodes) ∧
    (∀ steps, r.RewritesIn steps nodes (Document.ofPassages passages).nodes →
      (¬ ∃ sequence : Nat → List Node, sequence 0 = nodes ∧
        ∀ i, r.Rewrites (sequence i) (sequence (i + 1))) ∧
      (∀ taken last, r.RewritesIn taken nodes last → (∀ next, ¬ r.Rewrites last next) →
        taken = steps ∧ last = (Document.ofPassages passages).nodes) ∧
      ∀ front t behind, nodes = front ++ .text t :: behind →
        ∃ first second, passages = first ++ t :: second ∧
          (∃ capacity, (r.expander.expand none capacity ⟨front⟩).result = .ok first) ∧
          ∃ capacity, (r.expander.expand none capacity ⟨behind⟩).result = .ok second) ∧
    (Document.ofPassages passages).render = .ok (String.join (passages.map Passage.content)) := by
  refine ⟨?_, ?_, Document.render_ofPassages passages⟩
  · simp only [exists_expand_eq_ok_iff_expands, Registry.rewritesIn_ofPassages_iff]
  · intro steps hsteps
    have hexpands := Registry.rewritesIn_ofPassages_iff.mp hsteps
    refine ⟨not_exists_endless_rewriting hexpands, ?_, ?_⟩
    · intro taken last htaken hlast
      exact eq_ofPassages_of_maximal hexpands htaken hlast
    · rintro front t behind rfl
      obtain ⟨_, _, first, second, hfront, hbehind, rfl⟩ := hexpands.exists_of_text
      exact ⟨first, second, rfl, exists_expand_eq_ok_iff_expands.mpr ⟨_, hfront⟩,
        exists_expand_eq_ok_iff_expands.mpr ⟨_, hbehind⟩⟩

/-- A passage between two calls that both produce a call that produces nothing. -/
def flanked : List Node :=
  [.call (.bare "outer"), .text ⟨"a", .here, none⟩, .call (.bare "outer")]

/-- Calls are replaced from right to left, and expansion goes from left to right. -/
theorem expand_normalForm_flanked :
    relay.registry.RewritesIn 4 flanked [.text ⟨"a", .here, none⟩] ∧
      (∃ capacity, (relay.registry.expander.expand none capacity ⟨flanked⟩).result =
        .ok [⟨"a", .here, none⟩]) ∧
      ∀ taken last, relay.registry.RewritesIn taken flanked last →
        (∀ next, ¬ relay.registry.Rewrites last next) →
          taken = 4 ∧ last = [.text ⟨"a", .here, none⟩] := by
  have houter : relay.registry.Produces (.bare "outer") ⟨[.call (.bare "inner")]⟩ :=
    ⟨rfl, _, _, _, rfl, rfl⟩
  have hinner : relay.registry.Produces (.bare "inner") ⟨[]⟩ := ⟨rfl, _, _, _, rfl, rfl⟩
  have hsteps : relay.registry.RewritesIn 4 flanked [.text ⟨"a", .here, none⟩] :=
    .head (.replace (flanked.take 2) [] houter) <|
      .head (.replace (flanked.take 2) [] hinner) <|
      .head (.replace [] [.text ⟨"a", .here, none⟩] houter) <|
      .head (.replace [] [.text ⟨"a", .here, none⟩] hinner) .refl
  obtain ⟨hiff, hmaximal, -⟩ :=
    expand_normalForm relay.registry flanked [⟨"a", .here, none⟩]
  exact ⟨hsteps, hiff.mpr ⟨4, hsteps⟩, (hmaximal 4 hsteps).2.1⟩

end Expander

end Transclude
