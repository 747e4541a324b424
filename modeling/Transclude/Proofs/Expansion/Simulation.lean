import Mathlib.Data.List.Forall2
import Transclude.Proofs.Expansion.Derivation

/-!
# Expansions side by side

Two expanders may be run side by side on nodes that correspond to each other one by one. If for
calls that correspond they produce documents of nodes that correspond again, or both fail, then this
holds of whole expansions: both are completed, or both stop at calls that correspond, for the same
reason and with as much room.

## Main definitions

* `Node.Matches` — two nodes correspond, as passages or as calls
* `Stop.Matches` — two expansions stop for the same reason
* `Expander.Simulation` — what two expanders make of calls that correspond

## Main results

* `Expander.Simulation.completes`, `Expander.Simulation.stopsAt` — expansions of nodes that
  correspond go the same way
-/

namespace Transclude

/-- Two nodes correspond, as passages or as calls. -/
inductive Node.Matches (onText : Passage → Passage → Prop) (onCall : Call → Call → Prop) :
    Node → Node → Prop
  | text {t t'} (h : onText t t') : Matches onText onCall (.text t) (.text t')
  | call {c c'} (h : onCall c c') : Matches onText onCall (.call c) (.call c')

/-- Two expansions stop for the same reason. -/
inductive Stop.Matches
    (onFailure : Failure CompilationError → Failure CompilationError → Prop) : Stop → Stop → Prop
  | exhausted : Matches onFailure .exhausted .exhausted
  | failed {failure failure'} (h : onFailure failure failure') :
      Matches onFailure (.failed failure) (.failed failure')

namespace Expander

/-- What is produced for calls that correspond has nodes that correspond, and what fails for the one
call fails for the other. -/
structure Simulation (e e' : Expander) (onText : Passage → Passage → Prop)
    (onCall : Call → Call → Prop)
    (onFailure : Failure CompilationError → Failure CompilationError → Prop) : Prop where
  produced {c c' d} (hcall : onCall c c') (hresult : (e.dispatch c).result = .ok d) :
    ∃ d', (e'.dispatch c').result = .ok d' ∧
      List.Forall₂ (Node.Matches onText onCall) d.nodes d'.nodes
  failed {c c' failure} (hcall : onCall c c') (hresult : (e.dispatch c).result = .error failure) :
    ∃ failure', (e'.dispatch c').result = .error failure' ∧ onFailure failure failure'

namespace Simulation

variable {e e' : Expander} {onText : Passage → Passage → Prop} {onCall : Call → Call → Prop}
variable {onFailure : Failure CompilationError → Failure CompilationError → Prop}
variable {room : Nat} {nodes nodes' : List Node} {events : List Event} {passages : List Passage}
variable {around : List Call} {d : Call} {stop : Stop}

/-- What one expander completes the other one completes as well. -/
theorem completes (h : Simulation e e' onText onCall onFailure)
    (hcompletes : e.Completes room nodes events passages)
    (hnodes : List.Forall₂ (Node.Matches onText onCall) nodes nodes') :
    ∃ events' passages', e'.Completes room nodes' events' passages' ∧
      List.Forall₂ onText passages passages' := by
  induction hcompletes generalizing nodes' with
  | nil =>
    cases hnodes
    exact ⟨_, _, .nil, .nil⟩
  | text _ ih =>
    cases hnodes with
    | cons hnode hrest =>
      cases hnode with
      | text htext =>
        obtain ⟨_, _, hcompletes', hpassages⟩ := ih hrest
        exact ⟨_, _, .text hcompletes', .cons htext hpassages⟩
  | call hdispatch _ _ ihinner ihrest =>
    cases hnodes with
    | cons hnode hrest =>
      cases hnode with
      | call hcall =>
        obtain ⟨d', hresult, hproduced⟩ := h.produced hcall (congrArg Run.result hdispatch)
        obtain ⟨_, _, hinner, hpassages⟩ := ihinner hproduced
        obtain ⟨_, _, hfollowing, hothers⟩ := ihrest hrest
        exact ⟨_, _, .call (Run.eq_mk_of_result hresult) hinner hfollowing,
          List.rel_append hpassages hothers⟩

/-- Where one expander stops the other one stops as well. -/
theorem stopsAt (h : Simulation e e' onText onCall onFailure)
    (hstops : e.StopsAt room nodes events around d stop)
    (hnodes : List.Forall₂ (Node.Matches onText onCall) nodes nodes') :
    ∃ events' around' d' stop', e'.StopsAt room nodes' events' around' d' stop' ∧
      List.Forall₂ onCall around around' ∧ onCall d d' ∧ stop.Matches onFailure stop' := by
  induction hstops generalizing nodes' with
  | exhausted =>
    cases hnodes with
    | cons hnode _ =>
      cases hnode with
      | call hcall => exact ⟨_, _, _, _, .exhausted, .nil, hcall, .exhausted⟩
  | failed hdispatch =>
    cases hnodes with
    | cons hnode _ =>
      cases hnode with
      | call hcall =>
        obtain ⟨_, hresult, hfailure⟩ := h.failed hcall (congrArg Run.result hdispatch)
        exact ⟨_, _, _, _, .failed (Run.eq_mk_of_result hresult), .nil, hcall, .failed hfailure⟩
  | within hdispatch _ ih =>
    cases hnodes with
    | cons hnode _ =>
      cases hnode with
      | call hcall =>
        obtain ⟨_, hresult, hproduced⟩ := h.produced hcall (congrArg Run.result hdispatch)
        obtain ⟨_, _, _, _, hinner, haround, hd, hstop⟩ := ih hproduced
        exact ⟨_, _, _, _, .within (Run.eq_mk_of_result hresult) hinner, .cons hcall haround, hd,
          hstop⟩
  | behindText _ ih =>
    cases hnodes with
    | cons hnode hrest =>
      cases hnode with
      | text _ =>
        obtain ⟨_, _, _, _, hstops', hmatches⟩ := ih hrest
        exact ⟨_, _, _, _, .behindText hstops', hmatches⟩
  | behindCall hdispatch hinner _ ih =>
    cases hnodes with
    | cons hnode hrest =>
      cases hnode with
      | call hcall =>
        obtain ⟨_, hresult, hproduced⟩ := h.produced hcall (congrArg Run.result hdispatch)
        obtain ⟨_, _, hinner', -⟩ := h.completes hinner hproduced
        obtain ⟨_, _, _, _, hstops', hmatches⟩ := ih hrest
        exact ⟨_, _, _, _, .behindCall (Run.eq_mk_of_result hresult) hinner' hstops', hmatches⟩

end Simulation

end Expander

end Transclude
