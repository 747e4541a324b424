import Mathlib.Data.List.Forall2

/-!
# Traversing a list

A computation that may fail is done to the members of a list one after the other, and the first
failure is the failure of the whole.

## Main results

* `bind_eq_ok_iff`, `bind_eq_error_iff` — two computations in a row succeed exactly when both do,
  and fail as the first one does that fails
* `mapM_eq_ok_iff` — a traversal succeeds exactly when every member does
* `exists_mem_of_mapM_eq_ok` — every result of a traversal is the result of a member
* `mapM_cons_eq_error_iff` — a traversal fails at its first member or behind it
* `exists_behind_cons_iff` — what stands behind members with a property only
* `append_cons_inj` — a list can be split in one way only at the first of some members
* `mapM_eq_error_iff` — a traversal fails as the first member does that fails
* `exists_mem_of_mapM_eq_error` — a traversal fails as one of its members does
-/

namespace Transclude

variable {α β ε : Type}

/-- Two computations in a row succeed exactly when both do. -/
theorem bind_eq_ok_iff {first : Except ε α} {next : α → Except ε β} {y : β} :
    (first >>= next) = .ok y ↔ ∃ x, first = .ok x ∧ next x = .ok y := by
  cases first <;> simp [bind, Except.bind]

/-- Two computations in a row fail as the first one does, or as the second one behind it. -/
theorem bind_eq_error_iff {first : Except ε α} {next : α → Except ε β} {e : ε} :
    (first >>= next) = .error e ↔ first = .error e ∨ ∃ x, first = .ok x ∧ next x = .error e := by
  cases first <;> simp [bind, Except.bind]

/-- A traversal succeeds exactly when it succeeds at every member. -/
theorem mapM_eq_ok_iff {f : α → Except ε β} {xs : List α} {ys : List β} :
    xs.mapM f = .ok ys ↔ List.Forall₂ (fun x y => f x = .ok y) xs ys := by
  induction xs generalizing ys with
  | nil => cases ys <;> simp [pure, Except.pure]
  | cons x xs ih =>
    rw [List.mapM_cons]
    cases hx : f x with
    | error e => cases ys <;> simp [bind, Except.bind, hx]
    | ok y =>
      cases hxs : xs.mapM f with
      | error e =>
        -- No results go with the other members, so none go with all of them.
        have hnone (zs : List β) : ¬ List.Forall₂ (fun x y => f x = .ok y) xs zs := by
          simpa [hxs] using (@ih zs).not
        cases ys <;> simp [bind, Except.bind, hnone]
      | ok zs =>
        have hsome (ws : List β) : List.Forall₂ (fun x y => f x = .ok y) xs ws ↔ zs = ws := by
          rw [← ih, hxs, Except.ok.injEq]
        cases ys <;> simp [bind, Except.bind, pure, Except.pure, hx, hsome]

/-- Every result of a traversal is the result of a member. -/
theorem exists_mem_of_mapM_eq_ok {f : α → Except ε β} {xs : List α} {ys : List β} {y : β}
    (h : xs.mapM f = .ok ys) (hmem : y ∈ ys) : ∃ x ∈ xs, f x = .ok y := by
  induction mapM_eq_ok_iff.mp h with
  | nil => cases hmem
  | @cons x _ xs _ hx hxs ih =>
    rcases List.mem_cons.mp hmem with rfl | hmem
    · exact ⟨x, List.mem_cons_self, hx⟩
    · obtain ⟨x, hmem, hx⟩ := ih (mapM_eq_ok_iff.mpr hxs) hmem
      exact ⟨x, List.mem_cons_of_mem _ hmem, hx⟩

/-- A traversal fails at its first member, or behind it if that one does not fail. -/
theorem mapM_cons_eq_error_iff {f : α → Except ε β} {x : α} {xs : List α} {e : ε} :
    (x :: xs).mapM f = .error e ↔
      f x = .error e ∨ (∃ y, f x = .ok y) ∧ xs.mapM f = .error e := by
  rw [List.mapM_cons]
  cases hx : f x with
  | error e' => simp [bind, Except.bind]
  | ok y => cases hxs : xs.mapM f <;> simp [bind, Except.bind, pure, Except.pure]

/-- What stands behind members with a property only is the first member, or it stands like this
behind the first one. -/
theorem exists_behind_cons_iff {P : α → Prop} {a x : α} {xs : List α} :
    (∃ earlier later, x :: xs = earlier ++ a :: later ∧ ∀ y ∈ earlier, P y) ↔
      a = x ∨ P x ∧ ∃ earlier later, xs = earlier ++ a :: later ∧ ∀ y ∈ earlier, P y := by
  constructor
  · rintro ⟨earlier, later, heq, hearlier⟩
    cases earlier with
    | nil => exact .inl (List.cons.inj heq).1.symm
    | cons first earlier =>
      obtain ⟨rfl, rfl⟩ := List.cons.inj heq
      obtain ⟨hfirst, hearlier⟩ := List.forall_mem_cons.mp hearlier
      exact .inr ⟨hfirst, earlier, later, rfl, hearlier⟩
  · rintro (rfl | ⟨hfirst, earlier, later, rfl, hearlier⟩)
    · exact ⟨[], xs, rfl, by simp⟩
    · exact ⟨x :: earlier, later, rfl, List.forall_mem_cons.mpr ⟨hfirst, hearlier⟩⟩

/-- A list can be split in one way only at the first of some members. -/
theorem append_cons_inj {a a' : α} {front behind front' behind' : List α}
    (h : front ++ a :: behind = front' ++ a' :: behind') (ha : a ∉ front') (ha' : a' ∉ front) :
    front = front' ∧ a = a' ∧ behind = behind' := by
  induction front generalizing front' with
  | nil =>
    cases front' with
    | nil => exact ⟨rfl, List.cons.inj h⟩
    | cons first front' => exact absurd ((List.cons.inj h).1 ▸ List.mem_cons_self) ha
  | cons first front ih =>
    cases front' with
    | nil => exact absurd ((List.cons.inj h).1 ▸ List.mem_cons_self) ha'
    | cons first' front' =>
      obtain ⟨rfl, hrest⟩ := List.cons.inj h
      obtain ⟨rfl, hbehind⟩ := ih hrest (fun hmem => ha (.tail _ hmem))
        fun hmem => ha' (.tail _ hmem)
      exact ⟨rfl, hbehind⟩

/-- A traversal fails as the first member does that fails. -/
theorem mapM_eq_error_iff {f : α → Except ε β} {xs : List α} {e : ε} :
    xs.mapM f = .error e ↔ ∃ x, (∃ earlier later, xs = earlier ++ x :: later ∧
      ∀ before ∈ earlier, ∃ y, f before = .ok y) ∧ f x = .error e := by
  induction xs with
  | nil => simp [pure, Except.pure]
  | cons x xs ih =>
    rw [mapM_cons_eq_error_iff, ih]
    simp only [exists_behind_cons_iff, or_and_right, exists_or, exists_eq_left, and_assoc,
      exists_and_left]

/-- A traversal fails as one of its members does. -/
theorem exists_mem_of_mapM_eq_error {f : α → Except ε β} {xs : List α} {e : ε}
    (h : xs.mapM f = .error e) : ∃ x ∈ xs, f x = .error e := by
  obtain ⟨x, ⟨earlier, later, rfl, -⟩, hx⟩ := mapM_eq_error_iff.mp h
  exact ⟨x, by simp, hx⟩

end Transclude
