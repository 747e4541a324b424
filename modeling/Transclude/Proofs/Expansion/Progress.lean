import Transclude.Proofs.Expansion.Nesting

/-!
# How far an expansion comes

An expansion goes through the places of the tree of nested calls in preorder. As long as there is
room for the call at a place, and a document is produced for it, it goes on to the next place, and
otherwise it ends there. So its record is that of the calls in preorder: of all of them if it is
completed, and of those in front of the place where it stops, and that place, if it is not.

## Main definitions

* `Expander.CarriesOut` — there is room for the call at a place, and it produces a document
* `Expander.ComesTo` — all calls in front of a place are carried out
* `Expander.record` — what carrying out calls one after the other records
* `Expander.lastCalls` — the calls that stand at places

## Main results

* `Expander.Completes.carriesOut`, `Expander.Completes.events_eq` — what is completed carries out
  the calls of the whole tree
* `Expander.StopsAt.exists_comesTo`, `Expander.StopsAt.not_carriesOut` — an expansion comes to the
  place where it stops, and does not carry out the call there
* `Expander.StopsAt.exists_comesTo_of_extends` — so does an expander that carries out more
* `Expander.ComesTo.unique` — it comes to one such place at most
* `Expander.ComesTo.exists_stopsAt` — it stops where it comes to a call that fails
-/

namespace Transclude

/-- What is recorded of the call that an expansion stops at. -/
def Stop.events (e : Expander) (d : Call) : Stop → List Event
  | .exhausted => []
  | .failed _ => (e.dispatch d).events

namespace Expander

variable {e e' : Expander} {room depth : Nat} {nodes rest : List Node} {place place' : List Call}
variable {events events' : List Event} {passages : List Passage} {around : List Call}
variable {c d : Call} {stop : Stop} {produced : Document} {places before before' : List (List Call)}
variable {failure : Failure CompilationError}

/-- What carrying out calls one after the other records. -/
def record (e : Expander) (calls : List Call) : List Event :=
  calls.flatMap fun c => (e.dispatch c).events

/-- The calls that stand at places. -/
def lastCalls (places : List (List Call)) : List Call :=
  places.filterMap List.getLast?

/-- The place lies no deeper than there is room for, and a document is produced for the call that
stands there. -/
def CarriesOut (e : Expander) (room : Nat) (place : List Call) : Prop :=
  place.length ≤ room ∧
    ∃ around c produced, place = around ++ [c] ∧ (e.dispatch c).result = .ok produced

/-- The expansion comes to a place: the call there stands behind calls that are all carried out. -/
def ComesTo (e : Expander) (room : Nat) (nodes : List Node) (before : List (List Call))
    (place : List Call) : Prop :=
  before ++ [place] <+: e.preorder room nodes ∧ ∀ passed ∈ before, e.CarriesOut room passed

theorem lastCalls_cons_singleton : lastCalls ([c] :: places) = c :: lastCalls places := rfl

theorem lastCalls_append : lastCalls (places ++ before) = lastCalls places ++ lastCalls before :=
  List.filterMap_append

theorem lastCalls_map_cons (h : [] ∉ places) :
    lastCalls (places.map (c :: ·)) = lastCalls places := by
  induction places with
  | nil => rfl
  | cons place places ih =>
    obtain ⟨hplace, hplaces⟩ : place ≠ [] ∧ [] ∉ places := by simpa [eq_comm] using h
    have hlast : (c :: place).getLast? = place.getLast? := List.getLast?_cons_of_ne_nil hplace
    simp only [lastCalls, List.map_cons, List.filterMap_cons, hlast] at ih ⊢
    rw [ih hplaces]

theorem not_nil_mem_preorder : [] ∉ e.preorder depth nodes := fun h => by
  simpa using (mem_preorder_iff.mp h).2.1

theorem CarriesOut.cons (h : e.CarriesOut room place) : e.CarriesOut (room + 1) (c :: place) := by
  obtain ⟨hlength, around, d, produced, rfl, hresult⟩ := h
  exact ⟨Nat.succ_le_succ hlength, c :: around, d, produced, rfl, hresult⟩

theorem CarriesOut.exists_produced (h : e.CarriesOut room (around ++ [c])) :
    ∃ produced, (e.dispatch c).result = .ok produced := by
  obtain ⟨-, around', c', produced, hplace, hresult⟩ := h
  obtain ⟨-, hlast⟩ := List.append_inj' hplace rfl
  obtain rfl : c = c' := by simpa using hlast
  exact ⟨produced, hresult⟩

theorem carriesOut_singleton (h : e.dispatch c = ⟨events, .ok produced⟩) :
    e.CarriesOut (room + 1) [c] :=
  ⟨Nat.succ_le_succ (Nat.zero_le room), [], c, produced, rfl, by rw [h]⟩

/-- What is completed carries out all calls of the tree. -/
theorem Completes.carriesOut (h : e.Completes room nodes events passages) :
    ∀ place ∈ e.preorder room nodes, e.CarriesOut room place := by
  induction h with
  | nil => simp [preorder]
  | text _ ih => exact ih
  | call hdispatch _ _ ihinner ihrest =>
    rw [preorder_call_succ, producedNodes_of_dispatch hdispatch]
    intro place hplace
    -- The place is that of the call, one within it, or one behind it.
    rcases List.mem_append.mp hplace with hplace | hplace
    · rcases List.mem_cons.mp hplace with rfl | hplace
      · exact carriesOut_singleton hdispatch
      · obtain ⟨inner, hinner, rfl⟩ := List.mem_map.mp hplace
        exact (ihinner inner hinner).cons
    · exact ihrest place hplace

/-- The record of what is completed is that of the calls of the tree in preorder. -/
theorem Completes.events_eq (h : e.Completes room nodes events passages) :
    events = e.record (lastCalls (e.preorder room nodes)) := by
  induction h with
  | nil => rfl
  | text _ ih => exact ih
  | call hdispatch _ _ ihinner ihrest =>
    rw [preorder_call_succ, producedNodes_of_dispatch hdispatch, lastCalls_append,
      lastCalls_cons_singleton, lastCalls_map_cons not_nil_mem_preorder, ihinner, ihrest]
    simp [record, hdispatch]

/-- Within a call that is carried out, an expansion comes to the places that it comes to in what the
call produces. -/
theorem ComesTo.within (h : e.ComesTo room produced.nodes before place)
    (hdispatch : e.dispatch c = ⟨events, .ok produced⟩) :
    e.ComesTo (room + 1) (.call c :: rest) ([c] :: before.map (c :: ·)) (c :: place) := by
  refine ⟨?_, List.forall_mem_cons.mpr ⟨carriesOut_singleton hdispatch, ?_⟩⟩
  · rw [preorder_call_succ, producedNodes_of_dispatch hdispatch]
    simpa using (h.1.map (c :: ·)).trans (List.prefix_append ..)
  · exact List.forall_mem_map.mpr fun passed hpassed => (h.2 passed hpassed).cons

/-- Behind a call that is carried out with all that it produces, an expansion comes to the places
that it comes to without that call. -/
theorem ComesTo.behind (h : e.ComesTo (room + 1) rest before place)
    (hdispatch : e.dispatch c = ⟨events, .ok produced⟩)
    (hinner : e.Completes room produced.nodes events' passages) :
    e.ComesTo (room + 1) (.call c :: rest)
      ([c] :: (e.preorder room produced.nodes).map (c :: ·) ++ before) place := by
  refine ⟨?_, List.forall_mem_append.mpr ⟨List.forall_mem_cons.mpr
    ⟨carriesOut_singleton hdispatch, ?_⟩, h.2⟩⟩
  · rw [preorder_call_succ, producedNodes_of_dispatch hdispatch, List.append_assoc,
      List.prefix_append_right_inj]
    exact h.1
  · exact List.forall_mem_map.mpr fun passed hpassed => (hinner.carriesOut passed hpassed).cons

/-- The tree below nodes that are completed is the same for an expander that carries out more. -/
theorem Completes.preorder_eq (h : e.Completes room nodes events passages)
    (hextends : e.Extends e') : e'.preorder room nodes = e.preorder room nodes := by
  induction h with
  | nil => rfl
  | text _ ih => exact ih
  | call hdispatch _ _ ihinner ihrest =>
    rw [preorder_call_succ, preorder_call_succ, producedNodes_of_dispatch hdispatch,
      producedNodes_of_dispatch (hextends.dispatch_of hdispatch), ihinner, ihrest]

/-- An expansion stops at the first place where no call is carried out, and its record is that of
the calls in front of it. An expander that carries out more comes to that place, too. -/
theorem StopsAt.exists_comesTo_of_extends (h : e.StopsAt room nodes events around d stop)
    (hextends : e.Extends e') :
    ∃ before, e.ComesTo room nodes before (around ++ [d]) ∧
      e'.ComesTo room nodes before (around ++ [d]) ∧
      events = e.record (lastCalls before) ++ stop.events e d := by
  induction h with
  | exhausted => exact ⟨[], ⟨⟨_, rfl⟩, by simp⟩, ⟨⟨_, rfl⟩, by simp⟩, rfl⟩
  | failed hdispatch =>
    exact ⟨[], ⟨⟨_, rfl⟩, by simp⟩, ⟨⟨_, rfl⟩, by simp⟩,
      by simp [record, lastCalls, Stop.events, hdispatch]⟩
  | behindText _ ih => exact ih
  | within hdispatch hinner ih =>
    -- The record of the call comes first, as its place does.
    obtain ⟨before, hcomes, hcomes', hevents⟩ := ih
    refine ⟨_, hcomes.within hdispatch, hcomes'.within (hextends.dispatch_of hdispatch), ?_⟩
    have hne : [] ∉ before := fun hmem => by
      simpa [CarriesOut] using hcomes.2 _ hmem
    rw [lastCalls_cons_singleton, lastCalls_map_cons hne, hevents]
    simp [record, hdispatch]
  | behindCall hdispatch hinner _ ih =>
    obtain ⟨before, hcomes, hcomes', hevents⟩ := ih
    have hbehind := hcomes'.behind (hextends.dispatch_of hdispatch)
      (hinner.of_extends hextends (Nat.le_refl _))
    rw [hinner.preorder_eq hextends] at hbehind
    refine ⟨_, hcomes.behind hdispatch hinner, hbehind, ?_⟩
    rw [lastCalls_append, lastCalls_cons_singleton, lastCalls_map_cons not_nil_mem_preorder,
      hinner.events_eq, hevents]
    simp [record, hdispatch]

/-- An expansion stops at the first place where no call is carried out, and its record is that of
the calls in front of it. -/
theorem StopsAt.exists_comesTo (h : e.StopsAt room nodes events around d stop) :
    ∃ before, e.ComesTo room nodes before (around ++ [d]) ∧
      events = e.record (lastCalls before) ++ stop.events e d := by
  obtain ⟨before, hcomes, -, hevents⟩ := h.exists_comesTo_of_extends (.refl e)
  exact ⟨before, hcomes, hevents⟩

/-- Where there is no room for a call or no document is produced for it, the call is not carried
out. -/
theorem StopsAt.not_carriesOut (h : e.StopsAt room nodes events around d stop) :
    ¬ e.CarriesOut room (around ++ [d]) := by
  intro hcarries
  cases stop with
  | exhausted =>
    have hlength := hcarries.1
    rw [List.length_append, h.length_around] at hlength
    exact Nat.not_succ_le_self _ hlength
  | failed failure =>
    obtain ⟨produced, hresult⟩ := hcarries.exists_produced
    rw [h.dispatch_eq] at hresult
    cases hresult

/-- There is room for a call that fails. -/
theorem StopsAt.length_around_lt (h : e.StopsAt room nodes events around d (.failed failure)) :
    around.length < room := by
  generalize hstop : Stop.failed failure = stop at h
  induction h with
  | exhausted => cases hstop
  | failed _ => exact Nat.succ_pos _
  | within _ _ ih => exact Nat.succ_lt_succ (ih hstop)
  | behindText _ ih => exact ih hstop
  | behindCall _ _ _ ih => exact ih hstop

theorem ComesTo.eq_of_prefix (h' : e.ComesTo room nodes before' place')
    (hstarts : before ++ [place] <+: before' ++ [place']) (hplace : ¬ e.CarriesOut room place) :
    before = before' ∧ place = place' := by
  rcases List.prefix_concat_iff.mp hstarts with heq | hinside
  · obtain ⟨hbefore, hlast⟩ := List.append_inj' heq rfl
    exact ⟨hbefore, by simpa using hlast⟩
  · have hmem : place ∈ before' := hinside.subset (by simp)
    exact absurd (h'.2 place hmem) hplace

/-- There is one place at most that an expansion comes to without carrying out the call there. -/
theorem ComesTo.unique (h : e.ComesTo room nodes before place)
    (h' : e.ComesTo room nodes before' place') (hplace : ¬ e.CarriesOut room place)
    (hplace' : ¬ e.CarriesOut room place') : before = before' ∧ place = place' := by
  rcases List.prefix_or_prefix_of_prefix h.1 h'.1 with hstarts | hstarts
  · exact h'.eq_of_prefix hstarts hplace
  · obtain ⟨hbefore, hlast⟩ := h.eq_of_prefix hstarts hplace'
    exact ⟨hbefore.symm, hlast.symm⟩

/-- An expansion stops at the place it comes to, if no document is produced there. -/
theorem ComesTo.exists_stopsAt (h : e.ComesTo room nodes before (around ++ [c]))
    (hroom : around.length < room) (hresult : (e.dispatch c).result = .error failure) :
    ∃ events, e.StopsAt room nodes events around c (.failed failure) := by
  have hnot : ¬ e.CarriesOut room (around ++ [c]) := by
    intro hcarries
    obtain ⟨produced, hproduced⟩ := hcarries.exists_produced
    rw [hresult] at hproduced
    cases hproduced
  obtain ⟨_, _, hcompletes⟩ | ⟨events, around', d, stop, hstops⟩ :=
    e.completes_or_stopsAt room nodes
  · exact absurd (hcompletes.carriesOut _ (h.1.subset (by simp))) hnot
  · -- The expansion stops somewhere, and there is only one place where it can.
    obtain ⟨_, hcomes, -⟩ := hstops.exists_comesTo
    obtain ⟨-, hplace⟩ := h.unique hcomes hnot hstops.not_carriesOut
    obtain ⟨rfl, hlast⟩ := List.append_inj' hplace rfl
    obtain rfl : c = d := by simpa using hlast
    cases stop with
    | exhausted => exact absurd hstops.length_around (by omega)
    | failed failure' =>
      have hfailure := hstops.dispatch_eq
      rw [hresult] at hfailure
      cases hfailure
      exact ⟨events, hstops⟩

end Expander

end Transclude
