import Mathlib.Order.Lattice.Nat
import Transclude.Proofs.Expansion.Nesting
import Transclude.Provider.Fixed

/-!
# The depth limit

A limit either stops an expansion or is of no consequence. If it stops the expansion, what has been
done by then is what an expansion with a greater limit, or with none, does first. So there is an
exact threshold: a document that can be expanded without a limit can be expanded with one exactly
when its calls nest no deeper.

## Main definitions

* `Expander.StoppedByLimit` — the limit is what stops an expansion
* `Expander.nestings` — how many calls stand one within the other

## Main results

* `Expander.expand_eq_of_not_stopped` — a limit that does not stop an expansion might as well be
  greater
* `Expander.StoppedByLimit.expand_eq`, `Expander.StoppedByLimit.events_isPrefix` — how an expansion
  that the limit stops ends, and what it has done by then
* `Expander.exists_expand_eq_ok_iff` — the limits under which a document can be expanded
* `Expander.exists_expand_some_eq_ok_iff` — the documents that can be expanded under a limit
* `Expander.expand_of_less_limited` — an expansion compared with one that is limited less
-/

namespace Transclude.Expander

/-- The limit stops the expansion of a document at the call `c`, after the steps `events` and while
the calls `around` are being expanded. A limit beyond the capacity never stops anything. -/
def StoppedByLimit (e : Expander) (limit : Int) (capacity : Nat) (d : Document)
    (events : List Event) (around : List Call) (c : Call) : Prop :=
  limit ≤ capacity ∧ e.StopsAt limit.toNat d.nodes events around c .exhausted

/-- The lengths of the chains of nested calls. -/
def nestings (e : Expander) (nodes : List Node) : Set Nat :=
  {n | ∃ chain, e.Nests nodes chain ∧ chain.length = n}

variable {e : Expander} {limit : Int} {other : Option Int} {capacity height : Nat} {d : Document}
variable {events : List Event} {around : List Call} {c : Call} {passages : List Passage}

theorem expand_none :
    e.expand none capacity d =
      expandNodes (e.expandCall (.aborted .endless) capacity) d.nodes := rfl

theorem expand_of_le_capacity (h : limit ≤ capacity) :
    e.expand (some limit) capacity d =
      expandNodes (e.expandCall (.reported (.ofFault (.depthExceeded limit))) limit.toNat)
        d.nodes := by
  simp only [expand, if_pos h, expandWithin]

theorem expand_of_capacity_lt (h : capacity < limit) :
    e.expand (some limit) capacity d = e.expand none capacity d := by
  simp only [expand, if_neg (not_le.mpr h)]

/-- An expansion that is limited no more has no less room. -/
theorem exists_room_of_less_limited (hlimit : limit ≤ capacity)
    (hother : ∀ greater ∈ other, limit ≤ greater) :
    ∃ exhausted room, limit.toNat ≤ room ∧
      e.expand other capacity d = expandNodes (e.expandCall exhausted room) d.nodes := by
  cases other with
  | none => exact ⟨_, capacity, by omega, expand_none⟩
  | some greater =>
    have hle := hother greater rfl
    by_cases hgreater : greater ≤ capacity
    · exact ⟨_, greater.toNat, by omega, expand_of_le_capacity hgreater⟩
    · rw [expand_of_capacity_lt (not_le.mp hgreater)]
      exact ⟨_, capacity, by omega, expand_none⟩

/-- A limit that does not stop an expansion is of no consequence. -/
theorem expand_eq_of_not_stopped
    (h : ¬ ∃ events around c, e.StoppedByLimit limit capacity d events around c)
    (hother : ∀ greater ∈ other, limit ≤ greater) :
    e.expand other capacity d = e.expand (some limit) capacity d := by
  -- Beyond the capacity limits do not count, neither the one nor the greater one.
  by_cases hlimit : limit ≤ capacity
  · obtain ⟨_, _, hroom, hexpand⟩ := exists_room_of_less_limited hlimit hother
    rw [hexpand, expand_of_le_capacity hlimit]
    refine expandNodes_eq_of_not_exhausted ?_ hroom
    rintro ⟨events, around, c, hstops⟩
    exact h ⟨events, around, c, hlimit, hstops⟩
  · rw [expand_of_capacity_lt (not_le.mp hlimit)]
    cases other with
    | none => rfl
    | some greater =>
      have hle := hother greater rfl
      rw [expand_of_capacity_lt (by omega)]

namespace StoppedByLimit

/-- The limit is reported at the call, together with the calls around it. -/
theorem expand_eq (h : e.StoppedByLimit limit capacity d events around c) :
    e.expand (some limit) capacity d =
      ⟨events, .error (.reported (.simple (.depthExceeded limit)
        ⟨some ⟨c.origin, c.span, ""⟩, around.reverse⟩))⟩ := by
  rw [expand_of_le_capacity h.1, h.2.expandNodes_eq, Stop.failure, Failure.map_reported,
    CompilationError.foldr_escapeFrom_of_unlocated rfl]
  rfl

/-- What has been done before the limit stops an expansion is done first in any less limited one. -/
theorem events_isPrefix (h : e.StoppedByLimit limit capacity d events around c)
    (hother : ∀ greater ∈ other, limit ≤ greater) :
    events <+: (e.expand other capacity d).events := by
  obtain ⟨_, _, hroom, hexpand⟩ := exists_room_of_less_limited h.1 hother
  rw [hexpand]
  exact h.2.events_isPrefix hroom

/-- The expansion has come to a call with more calls nested around it than the limit allows. -/
theorem mem_nestings (h : e.StoppedByLimit limit capacity d events around c) :
    limit.toNat + 1 ∈ e.nestings d.nodes := by
  refine ⟨around ++ [c], h.2.nests, ?_⟩
  rw [List.length_append, h.2.length_around, List.length_singleton]

end StoppedByLimit

theorem completes_of_expand_none (h : (e.expand none capacity d).result = .ok passages) :
    ∃ events, e.Completes capacity d.nodes events passages :=
  completes_of_expandNodes_eq_ok h

/-- The calls of a document that can be expanded nest to a greatest depth. -/
theorem exists_isGreatest_nestings (h : (e.expand none capacity d).result = .ok passages) :
    ∃ height, IsGreatest (e.nestings d.nodes) height := by
  obtain ⟨_, hcompletes⟩ := completes_of_expand_none h
  have hbound : BddAbove (e.nestings d.nodes) := by
    refine ⟨capacity, ?_⟩
    rintro _ ⟨chain, hnests, rfl⟩
    exact hcompletes.length_le_of_nests hnests
  have hnonempty : (e.nestings d.nodes).Nonempty := ⟨0, [], nests_nil, rfl⟩
  exact ⟨_, Nat.sSup_mem hnonempty hbound, fun n hn => le_csSup hbound hn⟩

/-- The limit stops the expansion of a document that could be expanded without it exactly when it
is smaller than the depth to which calls nest. -/
theorem exists_stoppedByLimit_iff (h : (e.expand none capacity d).result = .ok passages)
    (hheight : IsGreatest (e.nestings d.nodes) height) :
    (∃ events around c, e.StoppedByLimit limit capacity d events around c) ↔
      limit.toNat < height := by
  constructor
  · rintro ⟨events, around, c, hstopped⟩
    exact hheight.2 hstopped.mem_nestings
  · intro hlt
    obtain ⟨_, hcompletes⟩ := completes_of_expand_none h
    obtain ⟨chain, hnests, rfl⟩ := hheight.1
    have hcapacity := hcompletes.length_le_of_nests hnests
    obtain ⟨_, _, hlimited⟩ | ⟨events, around, c, stop, hstops⟩ :=
      e.completes_or_stopsAt limit.toNat d.nodes
    · have hle := hlimited.length_le_of_nests hnests
      omega
    · cases stop with
      | exhausted => exact ⟨events, around, c, by omega, hstops⟩
      -- A call that fails would fail without a limit, too.
      | failed failure => exact absurd (hstops.mono (by omega)) hcompletes.not_stopsAt

/-- A limit that is no smaller than the depth to which calls nest is of no consequence. -/
theorem expand_eq_ok_of_le (h : (e.expand none capacity d).result = .ok passages)
    (hheight : IsGreatest (e.nestings d.nodes) height) (hle : height ≤ limit.toNat) :
    (e.expand (some limit) capacity d).result = .ok passages := by
  have hstopped := (exists_stoppedByLimit_iff h hheight).not.mpr (not_lt.mpr hle)
  rw [← expand_eq_of_not_stopped hstopped (by simp : ∀ greater ∈ none, limit ≤ greater)]
  exact h

/-- A document that can be expanded without a limit can be expanded with one exactly when its calls
nest no deeper. -/
theorem exists_expand_eq_ok_iff (h : (e.expand none capacity d).result = .ok passages)
    (hheight : IsGreatest (e.nestings d.nodes) height) :
    (∃ limited, (e.expand (some limit) capacity d).result = .ok limited) ↔
      height ≤ limit.toNat := by
  constructor
  · rintro ⟨limited, hok⟩
    by_contra hlt
    obtain ⟨events, around, c, hstopped⟩ :=
      (exists_stoppedByLimit_iff h hheight).mpr (not_le.mp hlt)
    rw [hstopped.expand_eq] at hok
    cases hok
  · intro hle
    exact ⟨passages, expand_eq_ok_of_le h hheight hle⟩

/-- Room for more calls does not change the outcome. -/
theorem expand_none_eq_ok_of_le {more : Nat} (h : (e.expand none capacity d).result = .ok passages)
    (hmore : capacity ≤ more) : (e.expand none more d).result = .ok passages := by
  obtain ⟨_, hcompletes⟩ := completes_of_expand_none h
  rw [expand_none, (hcompletes.mono hmore).expandNodes_eq]

/-- The documents that can be expanded under a limit that counts are those that can be expanded
without one and whose calls nest no deeper. -/
theorem exists_expand_some_eq_ok_iff (hlimit : limit ≤ capacity) :
    (∃ passages, (e.expand (some limit) capacity d).result = .ok passages) ↔
      (∃ more passages, (e.expand none more d).result = .ok passages) ∧
        ∃ height, IsGreatest (e.nestings d.nodes) height ∧ height ≤ limit.toNat := by
  have hroom (more : Nat) : e.expand (some limit) (max limit.toNat more) d =
      e.expand (some limit) capacity d := by
    rw [expand_of_le_capacity hlimit, expand_of_le_capacity (by omega)]
  constructor
  · rintro ⟨passages, h⟩
    rw [expand_of_le_capacity hlimit] at h
    obtain ⟨_, hcompletes⟩ := completes_of_expandNodes_eq_ok h
    have hnone : (e.expand none limit.toNat d).result = .ok passages := by
      rw [expand_none, hcompletes.expandNodes_eq]
    obtain ⟨height, hheight⟩ := exists_isGreatest_nestings hnone
    obtain ⟨chain, hnests, hlength⟩ := hheight.1
    exact ⟨⟨_, passages, hnone⟩, height, hheight, hlength ▸ hcompletes.length_le_of_nests hnests⟩
  · rintro ⟨⟨more, passages, h⟩, height, hheight, hle⟩
    have hmore := expand_none_eq_ok_of_le h (le_max_right limit.toNat more)
    rw [← hroom more]
    exact (exists_expand_eq_ok_iff hmore hheight).mpr hle

/-- **A limit is an exact threshold.** Compare an expansion with one that is limited less. If the
limit does not stop the first, both are the same. If it does, then at the first call in preorder
with as many calls around it as the limit allows; the limit is reported there, along with the calls
around, and what has been done is what the other expansion does first. So a document that can be
expanded without a limit can be expanded with one exactly when its calls nest no deeper, a negative
limit counting as zero, and then into the same passages. -/
theorem expand_of_less_limited (e : Expander) (capacity : Nat) (d : Document) (limit : Int)
    (other : Option Int) (hother : ∀ greater ∈ other, limit ≤ greater) :
    ((¬ ∃ events around c, e.StoppedByLimit limit capacity d events around c) →
      e.expand other capacity d = e.expand (some limit) capacity d) ∧
    (∀ events around c, e.StoppedByLimit limit capacity d events around c →
      (e.preorder limit.toNat d.nodes).find? (·.length = limit.toNat + 1) = some (around ++ [c]) ∧
      around.length = limit.toNat ∧
      e.expand (some limit) capacity d =
        ⟨events, .error (.reported (.simple (.depthExceeded limit)
          ⟨some ⟨c.origin, c.span, ""⟩, around.reverse⟩))⟩ ∧
      events <+: (e.expand other capacity d).events) ∧
    ∀ passages, (e.expand none capacity d).result = .ok passages →
      ∃ height, IsGreatest (e.nestings d.nodes) height ∧
        ((∃ limited, (e.expand (some limit) capacity d).result = .ok limited) ↔
          height ≤ limit.toNat) ∧
        (height ≤ limit.toNat → (e.expand (some limit) capacity d).result = .ok passages) := by
  refine ⟨fun h => expand_eq_of_not_stopped h hother, ?_, ?_⟩
  · intro events around c h
    exact ⟨h.2.find?_preorder, h.2.length_around, h.expand_eq, h.events_isPrefix hother⟩
  · intro passages h
    obtain ⟨height, hheight⟩ := exists_isGreatest_nestings h
    refine ⟨height, hheight, exists_expand_eq_ok_iff h hheight, ?_⟩
    intro hle
    exact expand_eq_ok_of_le h hheight hle

/-- Calls of `outer` produce a call of `inner`, and calls of `inner` produce nothing. -/
def relay : Expander :=
  ⟨⟨[.ofNodes [] [("outer", [.call (.bare "inner")]), ("inner", [])]]⟩, false⟩

theorem expand_of_less_limited_relay :
    (∀ greater ∈ some (2 : Int), 1 ≤ greater) ∧
      relay.expand (some 1) defaultCapacity ⟨[.call (.bare "outer")]⟩ =
        ⟨[.dispatched "outer" "NodeProvider", .expanding 0 (.bare "outer") .origin],
          .error (.reported (.simple (.depthExceeded 1)
            ⟨some ⟨.here, some ⟨.origin, .origin⟩, ""⟩, [.bare "outer"]⟩))⟩ ∧
      [.dispatched "outer" "NodeProvider", .expanding 0 (.bare "outer") .origin] <+:
        (relay.expand (some 2) defaultCapacity ⟨[.call (.bare "outer")]⟩).events ∧
      ∃ height, IsGreatest (relay.nestings [.call (.bare "outer")]) height ∧ 1 < height := by
  have hgreater : ∀ greater ∈ some (2 : Int), 1 ≤ greater := by simp
  obtain ⟨-, hstopped, hthreshold⟩ := expand_of_less_limited relay defaultCapacity
    ⟨[.call (.bare "outer")]⟩ 1 (some 2) hgreater
  have houter : relay.dispatch (.bare "outer") =
      ⟨[.dispatched "outer" "NodeProvider", .expanding 0 (.bare "outer") .origin],
        .ok ⟨[.call (.bare "inner")]⟩⟩ := rfl
  obtain ⟨-, -, hexpand, hprefix⟩ := hstopped _ [.bare "outer"] (.bare "inner")
    ⟨by decide, .within houter .exhausted⟩
  obtain ⟨height, hheight, hlimit, -⟩ := hthreshold [] rfl
  refine ⟨hgreater, hexpand, hprefix, height, hheight, not_le.mp ?_⟩
  intro hle
  obtain ⟨limited, hlimited⟩ := hlimit.mpr hle
  rw [hexpand] at hlimited
  cases hlimited

/-- A document without calls. -/
def uncalled : Document :=
  .ofPassages [⟨"a", .here, none⟩]

/-- The expander of an empty registry. -/
def unprovided : Expander :=
  ⟨⟨[]⟩, false⟩

/-- A negative limit is smaller than the depth to which calls nest where there is none, and yet it
does not stop the expansion. -/
theorem not_threshold_of_negative_limit :
    (∃ passages, (unprovided.expand none defaultCapacity uncalled).result = .ok passages) ∧
      IsGreatest (unprovided.nestings uncalled.nodes) 0 ∧
      ¬ ((∃ limited,
          (unprovided.expand (some (-1)) defaultCapacity uncalled).result = .ok limited) ↔
        ((0 : Nat) : Int) ≤ -1) := by
  refine ⟨⟨_, rfl⟩, ⟨⟨[], nests_nil, rfl⟩, ?_⟩, ?_⟩
  · rintro _ ⟨chain, hnests, rfl⟩
    cases chain with
    | nil => exact le_rfl
    | cons c chain => simp [uncalled, Document.ofPassages] at hnests
  · intro hiff
    have hle := hiff.mp ⟨_, rfl⟩
    omega

end Transclude.Expander
