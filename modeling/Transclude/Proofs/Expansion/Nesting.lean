import Transclude.Proofs.Expansion.Derivation

/-!
# Nested calls

The calls of a document, those of what they produce, those of what these produce in their turn, and
so on, are the nodes of a tree. A place in the tree is told by the calls on the way to it, outermost
first. An expansion goes through this tree in preorder, down to the depth it has room for.

## Main definitions

* `Expander.producedNodes` — the nodes that a call produces
* `Expander.Nests` — calls that stand one within the other
* `Expander.preorder` — the places of the tree down to some depth, each one in front of those
  within it

## Main results

* `Expander.mem_preorder_iff` — the places in preorder are the nonempty chains of nested calls
* `Expander.Completes.length_le_of_nests` — what is completed nests no deeper than it had
  room for
* `Expander.StopsAt.nests` — an expansion stops at a place of the tree
* `Expander.StopsAt.find?_preorder` — where no room is left, the first place is met that is too deep
-/

namespace Transclude

/-- The call that a node is, if it is one. -/
def Node.call? : Node → Option Call
  | .text _ => none
  | .call c => some c

@[simp] theorem Node.call?_eq_some_iff {node : Node} {c : Call} :
    node.call? = some c ↔ node = .call c := by
  cases node <;> simp [call?]

namespace Expander

/-- The nodes that a call produces; there are none if it fails. -/
def producedNodes (e : Expander) (c : Call) : List Node :=
  match (e.dispatch c).result with
  | .ok produced => produced.nodes
  | .error _ => []

/-- Calls stand one within the other: the first one among the nodes, and every other one in what
the one before it produces. -/
def Nests (e : Expander) : List Node → List Call → Prop
  | _, [] => True
  | nodes, c :: chain => .call c ∈ nodes ∧ e.Nests (e.producedNodes c) chain

/-- The places from a call down to `depth` levels below it, in preorder. -/
def preorderFrom (e : Expander) : (depth : Nat) → Call → List (List Call)
  | 0, c => [[c]]
  | depth + 1, c =>
    [c] :: (((e.producedNodes c).filterMap Node.call?).flatMap (e.preorderFrom depth)).map (c :: ·)

/-- The places below nodes that are at most `depth` levels deep, in preorder. Each is told by the
calls on the way to it, outermost first. -/
def preorder (e : Expander) (depth : Nat) (nodes : List Node) : List (List Call) :=
  (nodes.filterMap Node.call?).flatMap (e.preorderFrom depth)

variable {e : Expander} {room depth : Nat} {nodes rest : List Node}
variable {events : List Event} {passages : List Passage} {around chain : List Call} {c d : Call}
variable {stop : Stop} {produced : Document}

theorem producedNodes_of_dispatch (h : e.dispatch c = ⟨events, .ok produced⟩) :
    e.producedNodes c = produced.nodes := by
  simp [producedNodes, h]

theorem mem_producedNodes_iff {node : Node} :
    node ∈ e.producedNodes c ↔
      ∃ produced, (e.dispatch c).result = .ok produced ∧ node ∈ produced.nodes := by
  cases h : (e.dispatch c).result <;> simp [producedNodes, h]

@[simp] theorem nests_nil : e.Nests nodes [] := trivial

@[simp] theorem nests_cons :
    e.Nests nodes (c :: chain) ↔ .call c ∈ nodes ∧ e.Nests (e.producedNodes c) chain := Iff.rfl

theorem Nests.of_subset (h : e.Nests rest chain) (hsubset : rest ⊆ nodes) :
    e.Nests nodes chain := by
  cases chain with
  | nil => trivial
  | cons c chain => exact ⟨hsubset h.1, h.2⟩

theorem preorder_call_zero :
    e.preorder 0 (.call c :: rest) = [c] :: e.preorder 0 rest := rfl

theorem preorder_call_succ :
    e.preorder (depth + 1) (.call c :: rest) =
      [c] :: (e.preorder depth (e.producedNodes c)).map (c :: ·) ++
        e.preorder (depth + 1) rest := rfl

theorem mem_preorder_iff_exists :
    chain ∈ e.preorder depth nodes ↔ ∃ c, .call c ∈ nodes ∧ chain ∈ e.preorderFrom depth c := by
  simp [preorder]

theorem mem_preorderFrom_succ_iff :
    d :: chain ∈ e.preorderFrom (depth + 1) c ↔
      d = c ∧ (chain = [] ∨ chain ∈ e.preorder depth (e.producedNodes c)) := by
  simp only [preorderFrom, preorder, List.mem_cons, List.mem_map, List.cons.injEq]
  constructor
  · rintro (⟨rfl, rfl⟩ | ⟨_, hmem, rfl, rfl⟩)
    · exact ⟨rfl, .inl rfl⟩
    · exact ⟨rfl, .inr hmem⟩
  · rintro ⟨rfl, rfl | hmem⟩
    · exact .inl ⟨rfl, rfl⟩
    · exact .inr ⟨_, hmem, rfl, rfl⟩

/-- The places in preorder are the chains of nested calls that are not too long. -/
theorem mem_preorder_iff :
    chain ∈ e.preorder depth nodes ↔
      e.Nests nodes chain ∧ 0 < chain.length ∧ chain.length ≤ depth + 1 := by
  induction depth generalizing nodes chain with
  | zero =>
    cases chain with
    | nil => simp [preorder, preorderFrom]
    | cons c chain => cases chain <;> simp [preorder, preorderFrom]
  | succ depth ih =>
    cases chain with
    | nil => simp [preorder, preorderFrom]
    | cons c chain =>
      -- A place within the call is the call itself, or a shorter place in what it produces.
      have hinner : chain = [] ∨ chain ∈ e.preorder depth (e.producedNodes c) ↔
          e.Nests (e.producedNodes c) chain ∧ chain.length ≤ depth + 1 := by
        rw [ih]
        cases chain <;> simp
      rw [mem_preorder_iff_exists, nests_cons, and_assoc, List.length_cons,
        Nat.add_le_add_iff_right, and_iff_right (Nat.zero_lt_succ _), ← hinner]
      simp only [mem_preorderFrom_succ_iff]
      constructor
      · rintro ⟨_, hmem, rfl, hchain⟩
        exact ⟨hmem, hchain⟩
      · rintro ⟨hmem, hchain⟩
        exact ⟨c, hmem, rfl, hchain⟩

/-- What is completed nests no deeper than there was room for. -/
theorem Completes.length_le_of_nests (h : e.Completes room nodes events passages)
    (hnests : e.Nests nodes chain) : chain.length ≤ room := by
  induction h generalizing chain with
  | nil =>
    cases chain with
    | nil => exact Nat.zero_le _
    | cons c chain => simp at hnests
  | text _ ih =>
    cases chain with
    | nil => exact Nat.zero_le _
    | cons c chain => exact ih (by simpa using hnests)
  | call hdispatch _ _ ihinner ihrest =>
    cases chain with
    | nil => exact Nat.zero_le _
    | cons d chain =>
      obtain ⟨hmem, hchain⟩ := nests_cons.mp hnests
      rcases List.mem_cons.mp hmem with heq | hmem
      · obtain rfl := Node.call.inj heq
        rw [producedNodes_of_dispatch hdispatch] at hchain
        exact Nat.succ_le_succ (ihinner hchain)
      · exact ihrest ⟨hmem, hchain⟩

/-- The calls around the one that an expansion stops at are nested, and it stands innermost. -/
theorem StopsAt.nests (h : e.StopsAt room nodes events around d stop) :
    e.Nests nodes (around ++ [d]) := by
  induction h with
  | exhausted => simp
  | failed _ => simp
  | within hdispatch _ ih =>
    rw [List.cons_append, nests_cons, producedNodes_of_dispatch hdispatch]
    exact ⟨List.mem_cons_self, ih⟩
  | behindText _ ih => exact ih.of_subset (List.subset_cons_self ..)
  | behindCall _ _ _ ih => exact ih.of_subset (List.subset_cons_self ..)

/-- As many calls stand around one that no room is left for as there was room for. -/
theorem StopsAt.length_around (h : e.StopsAt room nodes events around d .exhausted) :
    around.length = room := by
  generalize hstop : Stop.exhausted = stop at h
  induction h with
  | exhausted => rfl
  | failed _ => cases hstop
  | within _ _ ih => rw [List.length_cons, ih hstop]
  | behindText _ ih => exact ih hstop
  | behindCall _ _ _ ih => exact ih hstop

/-- The first place that lies so deep is looked for within a call, and then behind it. -/
theorem find?_preorder_call_succ :
    (e.preorder (depth + 1) (.call c :: rest)).find? (·.length = depth + 2) =
      (((e.preorder depth (e.producedNodes c)).find? (·.length = depth + 1)).map (c :: ·)).or
        ((e.preorder (depth + 1) rest).find? (·.length = depth + 2)) := by
  have hlonger : (fun chain : List Call => decide (chain.length = depth + 2)) ∘ (c :: ·) =
      fun chain => decide (chain.length = depth + 1) := by
    funext chain
    simp
  rw [preorder_call_succ, List.cons_append, List.find?_cons_of_neg (by simp), List.find?_append,
    List.find?_map, hlonger]

/-- Among nodes that are completed there is no place deeper than there was room for. -/
theorem Completes.find?_preorder (h : e.Completes room nodes events passages) :
    (e.preorder room nodes).find? (·.length = room + 1) = none := by
  rw [List.find?_eq_none]
  intro chain hchain
  have hle := h.length_le_of_nests (mem_preorder_iff.mp hchain).1
  simp
  omega

/-- Where no room is left, the expansion has come to the first place that is too deep. -/
theorem StopsAt.find?_preorder (h : e.StopsAt room nodes events around d .exhausted) :
    (e.preorder room nodes).find? (·.length = room + 1) = some (around ++ [d]) := by
  generalize hstop : Stop.exhausted = stop at h
  induction h with
  | exhausted => simp [preorder_call_zero]
  | failed _ => cases hstop
  | within hdispatch _ ih =>
    rw [find?_preorder_call_succ, producedNodes_of_dispatch hdispatch, ih hstop]
    rfl
  | behindText _ ih => exact ih hstop
  | behindCall hdispatch hinner _ ih =>
    -- What the call produces was completed, so nothing in it lies too deep.
    rw [find?_preorder_call_succ, producedNodes_of_dispatch hdispatch, hinner.find?_preorder,
      ih hstop]
    rfl

end Expander

/-- A call without arguments, at the start of a file. -/
def Call.bare (function : String) : Call :=
  ⟨function, [], .here, some ⟨.origin, .origin⟩⟩

end Transclude
