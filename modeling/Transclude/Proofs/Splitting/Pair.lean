import Mathlib.Data.List.Infix

/-!
# Pairs of braces

A pair is two equal characters side by side. The leftmost pair of a text is found by its index, and
what stands in front of it holds no pair, not even together with the first character of the pair.

## Main definitions

* `HasPair` — a text holds a pair
* `pairIndex?` — the least index of a pair

## Main results

* `pairIndex?_eq_none_iff`, `pairIndex?_eq_some_iff` — the search finds the leftmost pair
* `hasPair_concat_iff`, `hasPair_append_iff` — how a pair comes about at the end of a text, and
  where two texts meet
-/

namespace Transclude

variable {brace : Char} {cs text rest : List Char} {i : Nat}

/-- Two characters `brace` stand side by side. -/
def HasPair (brace : Char) (cs : List Char) : Prop := [brace, brace] <:+: cs

instance (brace : Char) (cs : List Char) : Decidable (HasPair brace cs) :=
  inferInstanceAs (Decidable ([brace, brace] <:+: cs))

/-- The least index at which two characters `brace` stand side by side. -/
def pairIndex? (brace : Char) (cs : List Char) : Option Nat :=
  (List.range cs.length).find? fun i => [brace, brace] <+: cs.drop i

@[simp] theorem not_hasPair_nil : ¬ HasPair brace [] := by
  simp [HasPair]

/-- A pair in two texts side by side is in one of them, or is made where they meet. -/
theorem hasPair_append_iff : HasPair brace (text ++ rest) ↔
    HasPair brace text ∨ HasPair brace rest ∨
      (text.getLast? = some brace ∧ rest.head? = some brace) := by
  unfold HasPair
  rw [List.infix_append_iff]
  constructor
  · rintro (htext | hrest | ⟨front, back, hpair, hfront, hback⟩)
    · exact .inl htext
    · exact .inr (.inl hrest)
    · -- The texts meet in front of the pair, between its braces, or behind it.
      obtain _ | ⟨c, _ | ⟨d, front⟩⟩ := front
      · obtain rfl : [brace, brace] = back := hpair
        exact .inr (.inl hback.isInfix)
      · obtain ⟨rfl, rfl⟩ : brace = c ∧ [brace] = back := by simpa using hpair
        obtain ⟨behind, rfl⟩ := hback
        exact .inr (.inr ⟨List.singleton_suffix_iff_getLast?_eq_some.mp hfront, rfl⟩)
      · obtain ⟨rfl, rfl, rfl, rfl⟩ : brace = c ∧ brace = d ∧ front = [] ∧ back = [] := by
          simpa using hpair
        exact .inl hfront.isInfix
  · rintro (htext | hrest | ⟨htext, hrest⟩)
    · exact .inl htext
    · exact .inr (.inl hrest)
    · obtain ⟨behind, rfl⟩ := List.head?_eq_some_iff.mp hrest
      exact .inr (.inr ⟨[brace], [brace], rfl,
        List.singleton_suffix_iff_getLast?_eq_some.mpr htext, ⟨behind, rfl⟩⟩)

/-- A pair at the end of a text is made of its last two characters. -/
theorem hasPair_concat_iff {c : Char} :
    HasPair brace (cs ++ [c]) ↔ (c = brace ∧ cs.getLast? = some brace) ∨ HasPair brace cs := by
  have hsingle : ¬ HasPair brace [c] := fun h => by simpa using h.length_le
  rw [hasPair_append_iff, List.head?_cons, Option.some.injEq]
  tauto

theorem hasPair_iff_exists_drop : HasPair brace cs ↔ ∃ i, [brace, brace] <+: cs.drop i := by
  unfold HasPair
  rw [List.infix_iff_prefix_suffix]
  constructor
  · rintro ⟨tail, hprefix, hsuffix⟩
    rw [List.suffix_iff_eq_drop] at hsuffix
    exact ⟨_, hsuffix ▸ hprefix⟩
  · rintro ⟨i, h⟩
    exact ⟨cs.drop i, h, List.drop_suffix i cs⟩

/-- A pair stands in front of the end of a text. -/
theorem lt_length_of_pair_prefix (h : [brace, brace] <+: cs.drop i) : i + 1 < cs.length := by
  have := h.length_le
  simp only [List.length_cons, List.length_nil, List.length_drop] at this
  omega

theorem pairIndex?_eq_none_iff : pairIndex? brace cs = none ↔ ¬ HasPair brace cs := by
  rw [pairIndex?, List.find?_range_eq_none, hasPair_iff_exists_drop]
  constructor
  · rintro h ⟨i, hi⟩
    have hlt : i < cs.length := by have := lt_length_of_pair_prefix hi; omega
    simpa [hi] using h i hlt
  · intro h i _
    simpa using fun hi => h ⟨i, hi⟩

/-- The pair that is found is the leftmost one. -/
theorem pairIndex?_eq_some_iff :
    pairIndex? brace cs = some i ↔
      ∃ text rest, cs = text ++ brace :: brace :: rest ∧ text.length = i ∧
        ¬ HasPair brace (text ++ [brace]) := by
  -- In front of the pair, a text is the same with and without what follows the first brace.
  have front (text rest : List Char) (j : Nat) (hj : j < text.length) :
      [brace, brace] <+: (text ++ brace :: brace :: rest).drop j ↔
        [brace, brace] <+: (text ++ [brace]).drop j := by
    have regroup : text ++ brace :: brace :: rest = (text ++ [brace]) ++ brace :: rest := by simp
    rw [regroup, List.drop_append_of_le_length (by simp; omega)]
    exact List.isPrefix_append_of_length (by simp; omega)
  rw [pairIndex?, List.find?_range_eq_some]
  simp only [decide_eq_true_eq, List.mem_range, Bool.not_eq_true', decide_eq_false_iff_not]
  constructor
  · rintro ⟨⟨rest, hrest⟩, hlt, least⟩
    have split : cs = cs.take i ++ brace :: brace :: rest := by
      simpa using (List.take_append_drop i cs).symm.trans (congrArg (cs.take i ++ ·) hrest.symm)
    have hlen : (cs.take i).length = i := by simp; omega
    refine ⟨cs.take i, rest, split, hlen, ?_⟩
    rw [hasPair_iff_exists_drop]
    rintro ⟨j, hj⟩
    have hjlt := lt_length_of_pair_prefix hj
    simp only [List.length_append, List.length_cons, List.length_nil, hlen] at hjlt
    have earlier := (front (cs.take i) rest j (by omega)).mpr hj
    rw [← split] at earlier
    exact least j (by omega) earlier
  · rintro ⟨text, rest, rfl, rfl, h⟩
    refine ⟨by simp, by simp, fun j hj => ?_⟩
    rw [front text rest j hj]
    exact fun hpair => h (hasPair_iff_exists_drop.mpr ⟨j, hpair⟩)

theorem pairIndex?_append (h : ¬ HasPair brace (text ++ [brace])) :
    pairIndex? brace (text ++ brace :: brace :: rest) = some text.length :=
  pairIndex?_eq_some_iff.mpr ⟨text, rest, rfl, rfl, h⟩

theorem pairIndex?_eq_none (h : ¬ HasPair brace cs) : pairIndex? brace cs = none :=
  pairIndex?_eq_none_iff.mpr h

end Transclude
