import Transclude.Proofs.Expansion.Depth
import Transclude.Proofs.Expansion.Simulation

/-!
# Running out of room

An expansion that runs out of room may have needed a little more, or may go on for ever. What tells
the two apart is the room that is just not enough. There is at most one such room for given nodes,
and if it is not zero, then one of their calls produces nodes for which one less is just not enough.
So an expansion that ends at all goes, on its way to the deepest call, through documents no two of
which need the same room.

## Main definitions

* `Expander.Exhausts` — the expansion of nodes runs out of room
* `Expander.JustExhausts` — it does, and would not with room for one more
* `Run.ExceedsLimit` — an expansion ends because its limit is exceeded

## Main results

* `Expander.Exhausts.of_le` — less room runs out, too
* `Expander.JustExhausts.unique` — only one room is just not enough
* `Expander.JustExhausts.exists_produced` — a call produces nodes that need one less
* `Expander.Simulation.exhausts` — nodes that correspond need the same room
* `Expander.expand_eq_of_le_capacity` — a greater capacity makes no difference to what ends
-/

namespace Transclude

/-- The run ends with the error that its limit is exceeded. -/
def Run.ExceedsLimit {α : Type} (run : Run α) (limit : Int) : Prop :=
  ∃ trace, run.result = .error (.reported (.simple (.depthExceeded limit) trace))

namespace Expander

/-- The expansion of nodes runs out of room. -/
def Exhausts (e : Expander) (room : Nat) (nodes : List Node) : Prop :=
  ∃ events around d, e.StopsAt room nodes events around d .exhausted

/-- The expansion of nodes runs out of room, but does not with room for one more. -/
def JustExhausts (e : Expander) (room : Nat) (nodes : List Node) : Prop :=
  e.Exhausts room nodes ∧ ¬ e.Exhausts (room + 1) nodes

variable {e e' : Expander} {room room' more capacity : Nat} {nodes nodes' : List Node}
variable {d : Document} {events inner : List Event} {passages : List Passage} {t : Passage}
variable {around : List Call} {c : Call} {failure : Failure CompilationError} {limit : Int}

theorem Completes.not_exhausts (h : e.Completes room nodes events passages) :
    ¬ e.Exhausts room nodes := by
  rintro ⟨_, _, _, hstops⟩
  exact h.not_stopsAt hstops

/-- An expansion that stops because a call fails does not run out of room. -/
theorem StopsAt.not_exhausts (h : e.StopsAt room nodes events around c (.failed failure)) :
    ¬ e.Exhausts room nodes := by
  rintro ⟨_, _, _, hstops⟩
  -- Running out ends as one likes, and a failure of a call does not: two ways of ending differ.
  have hendless : expandNodes (e.expandCall (.aborted .endless) room) nodes = _ := h.expandNodes_eq
  have hdeep : expandNodes (e.expandCall (.aborted .deepNesting) room) nodes = _ := h.expandNodes_eq
  rw [hstops.expandNodes_eq] at hendless hdeep
  have hsame := congrArg Run.result (hendless.trans hdeep.symm)
  cases hsame

/-- Nodes are completed, or a call fails, or there is no room left. -/
theorem exhausts_or (e : Expander) (room : Nat) (nodes : List Node) :
    e.Exhausts room nodes ∨ (∃ events passages, e.Completes room nodes events passages) ∨
      ∃ events around c failure, e.StopsAt room nodes events around c (.failed failure) := by
  obtain hcompletes | ⟨events, around, c, stop, hstops⟩ := e.completes_or_stopsAt room nodes
  · exact .inr (.inl hcompletes)
  · cases stop with
    | exhausted => exact .inl ⟨events, around, c, hstops⟩
    | failed failure => exact .inr (.inr ⟨events, around, c, failure, hstops⟩)

/-- Where some room runs out, less room runs out as well. -/
theorem Exhausts.of_le (h : e.Exhausts more nodes) (hle : room ≤ more) : e.Exhausts room nodes := by
  obtain hexhausts | ⟨_, _, hcompletes⟩ | ⟨_, _, _, _, hstops⟩ := e.exhausts_or room nodes
  · exact hexhausts
  · exact absurd h (hcompletes.mono hle).not_exhausts
  · exact absurd h (hstops.mono hle).not_exhausts

theorem Exhausts.behindText (h : e.Exhausts room nodes) : e.Exhausts room (.text t :: nodes) := by
  obtain ⟨_, _, _, hstops⟩ := h
  exact ⟨_, _, _, .behindText hstops⟩

theorem Exhausts.within (hdispatch : e.dispatch c = ⟨events, .ok d⟩)
    (h : e.Exhausts room d.nodes) : e.Exhausts (room + 1) (.call c :: nodes) := by
  obtain ⟨_, _, _, hstops⟩ := h
  exact ⟨_, _, _, .within hdispatch hstops⟩

theorem Exhausts.behindCall (hdispatch : e.dispatch c = ⟨events, .ok d⟩)
    (hinner : e.Completes room d.nodes inner passages) (h : e.Exhausts (room + 1) nodes) :
    e.Exhausts (room + 1) (.call c :: nodes) := by
  obtain ⟨_, _, _, hstops⟩ := h
  exact ⟨_, _, _, .behindCall hdispatch hinner hstops⟩

namespace JustExhausts

/-- Only one room is just not enough. -/
theorem unique (h : e.JustExhausts room nodes) (h' : e.JustExhausts room' nodes) :
    room = room' := by
  apply le_antisymm
  · by_contra hlt
    exact h'.2 (h.1.of_le (by omega))
  · by_contra hlt
    exact h.2 (h'.1.of_le (by omega))

/-- An expansion that runs out of some room, but ends with some other room, runs out of a greatest
room. -/
theorem exists_of_exhausts (h : e.Exhausts room nodes) (hends : ¬ e.Exhausts more nodes) :
    ∃ greatest, room ≤ greatest ∧ e.JustExhausts greatest nodes := by
  by_contra hnone
  push Not at hnone
  have hall (extra : Nat) : e.Exhausts (room + extra) nodes := by
    induction extra with
    | zero => exact h
    | succ extra ih =>
      by_contra hnext
      exact hnone (room + extra) (by omega) ⟨ih, hnext⟩
  exact hends ((hall more).of_le (by omega))

/-- If room for some calls is just not enough, then among the nodes stands a call for whose document
room for one less is just not enough. -/
theorem exists_produced (h : e.JustExhausts (room + 1) nodes) :
    ∃ c d, .call c ∈ nodes ∧ (e.dispatch c).result = .ok d ∧ e.JustExhausts room d.nodes := by
  obtain ⟨⟨events, around, innermost, hstops⟩, hends⟩ := h
  generalize hroom : room + 1 = start at hstops
  generalize hstop : Stop.exhausted = stop at hstops
  -- The call is the outermost one that is being expanded where the room runs out.
  induction hstops with
  | exhausted => cases hroom
  | failed _ => cases hstop
  | @within _ c _ _ d _ _ _ _ hdispatch hinner _ =>
    cases hroom
    cases hstop
    refine ⟨c, d, List.mem_cons_self, congrArg Run.result hdispatch, ⟨_, _, _, hinner⟩, ?_⟩
    intro hmore
    exact hends (hmore.within hdispatch)
  | behindText _ ih =>
    obtain ⟨c, d, hmem, hproduced⟩ := ih (fun hmore => hends hmore.behindText) hroom hstop
    exact ⟨c, d, List.mem_cons_of_mem _ hmem, hproduced⟩
  | behindCall hdispatch hinner _ ih =>
    cases hroom
    -- With more room, what stands in front is completed all the more.
    have hfront := hinner.mono (Nat.le_succ room)
    obtain ⟨c, d, hmem, hproduced⟩ :=
      ih (fun hmore => hends (hmore.behindCall hdispatch hfront)) rfl hstop
    exact ⟨c, d, List.mem_cons_of_mem _ hmem, hproduced⟩

end JustExhausts

/-- Nodes that correspond run out of the same room. -/
theorem Simulation.exhausts {onText : Passage → Passage → Prop} {onCall : Call → Call → Prop}
    {onFailure : Failure CompilationError → Failure CompilationError → Prop}
    (h : Simulation e e' onText onCall onFailure) (hexhausts : e.Exhausts room nodes)
    (hnodes : List.Forall₂ (Node.Matches onText onCall) nodes nodes') :
    e'.Exhausts room nodes' := by
  obtain ⟨_, _, _, hstops⟩ := hexhausts
  obtain ⟨_, _, _, _, hstops', -, -, hstop⟩ := h.stopsAt hstops hnodes
  cases hstop
  exact ⟨_, _, _, hstops'⟩

/-- A limit that counts stops an expansion exactly when so much room runs out. -/
theorem exists_stoppedByLimit_iff_exhausts (hlimit : limit ≤ capacity) :
    (∃ events around c, e.StoppedByLimit limit capacity d events around c) ↔
      e.Exhausts limit.toNat d.nodes := by
  simp only [StoppedByLimit, hlimit, true_and, Exhausts]

theorem Exhausts.exceedsLimit (h : e.Exhausts limit.toNat d.nodes) (hlimit : limit ≤ capacity) :
    (e.expand (some limit) capacity d).ExceedsLimit limit := by
  obtain ⟨_, _, _, hstopped⟩ := (exists_stoppedByLimit_iff_exhausts hlimit).mpr h
  exact ⟨_, congrArg Run.result hstopped.expand_eq⟩

/-- Without a limit, running out of room counts as endless. -/
theorem Exhausts.endless (h : e.Exhausts capacity d.nodes) :
    (e.expand none capacity d).result = .error (.aborted .endless) := by
  obtain ⟨_, _, _, hstops⟩ := h
  rw [expand_none, hstops.expandNodes_eq]
  rfl

/-- What does not count as endless stays the same with a greater capacity. -/
theorem expand_eq_of_le_capacity {limit : Option Int} (hle : capacity ≤ more)
    (h : (e.expand limit capacity d).result ≠ .error (.aborted .endless)) :
    e.expand limit more d = e.expand limit capacity d := by
  have hunlimited (hends : (e.expand none capacity d).result ≠ .error (.aborted .endless)) :
      ¬ e.Exhausts capacity d.nodes := fun hexhausts => hends hexhausts.endless
  cases limit with
  | none => exact expandNodes_eq_of_not_exhausted (hunlimited h) hle
  | some limit =>
    by_cases hcapacity : limit ≤ capacity
    · rw [expand_of_le_capacity hcapacity, expand_of_le_capacity (by omega)]
    · rw [expand_of_capacity_lt (not_le.mp hcapacity)] at h ⊢
      -- The limit is beyond the one capacity, and perhaps not beyond the other.
      by_cases hmore : limit ≤ more
      · rw [expand_of_le_capacity hmore, expand_none]
        exact expandNodes_eq_of_not_exhausted (hunlimited h) (by omega)
      · rw [expand_of_capacity_lt (not_le.mp hmore)]
        exact expandNodes_eq_of_not_exhausted (hunlimited h) hle

theorem result_expand_of_le_capacity {limit : Option Int}
    {result : Except (Failure CompilationError) (List Passage)}
    (h : (e.expand limit capacity d).result = result) (hends : result ≠ .error (.aborted .endless))
    (hle : capacity ≤ more) : (e.expand limit more d).result = result := by
  subst h
  rw [expand_eq_of_le_capacity hle hends]

end Expander

end Transclude
