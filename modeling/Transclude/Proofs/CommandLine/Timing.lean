import Mathlib.Data.Nat.Init
import Transclude.Proofs.CommandLine.Watching

/-!
# When a watch compiles

A watch makes an attempt exactly if it is told another time of modification than it remembers, so a
change is compiled once however the time moves, and a failure is not repeated. Before the first
attempt the watch acts as if it remembered the time zero: an input that bears this time is not
compiled until it bears another one.

## Main definitions

* `Options.IsDue` — the input has another time than at the latest attempt, or there was none

## Main results

* `Options.Watches.attempt_iff` — when a watch makes an attempt, by what it remembers
* `Options.Watches.recalled_of_told` — what is remembered is what was told last
* `Options.attempt_iff_isDue` — when a watch makes an attempt
* `Options.not_attempt_of_isDue` — what is due at first can be passed over
-/

namespace Transclude

theorem Time.seconds_zero : Time.seconds 0 = 0 := by decide +kernel

namespace Options

/-- A time is told for the input, and it is not the one of the latest attempt. -/
def IsDue (o : Options) (earlier : List Poll) (files : FileTree) : Prop :=
  ∃ time, o.toldTime files = .ok time ∧ (o.attemptTimes earlier).getLast? ≠ some time

variable {o : Options} {files later : FileTree} {intro said : String} {lastSeen seen : Time}
variable {edits : List (FileTree → FileTree)} {looks : List Poll} {look : Poll} {k : Nat}
variable {attempt : Option Attempt} {abort : Option Abort} {room : Nat}

/-- A look that is told no time leaves nothing to remember. -/
theorem attemptTimes_singleton_of_untold (h : ∀ time, o.toldTime look.before ≠ .ok time) :
    o.attemptTimes [look] = [] := by
  cases htold : o.toldTime look.before with
  | error fault => simp [attemptTimes, htold, Except.toOption]
  | ok time => exact absurd htold (h time)

/-- A look makes an attempt if it is told another time than the watch remembers. -/
theorem Looks.attempt_iff (h : o.Looks room files lastSeen ⟨said, attempt, seen, later, abort⟩) :
    attempt.isSome = true ↔ ∃ time, o.toldTime files = .ok time ∧ time ≠ lastSeen.seconds := by
  unfold toldTime
  cases h with
  | refused hmodified => simp [hmodified, Except.map]
  | unseen hmodified _ => simp [hmodified, Except.map]
  | unchanged hmodified hsame => simp [hmodified, Except.map, hsame]
  | attempted hmodified hchanged _ => simp [hmodified, Except.map, hchanged]

/-- Whatever time a look is told, it is the one that the watch remembers behind it. -/
theorem Looks.seconds_of_told (h : o.Looks room files lastSeen ⟨said, attempt, seen, later, abort⟩)
    {time : Seconds} (htold : o.toldTime files = .ok time) : seen.seconds = time := by
  unfold toldTime at htold
  cases h with
  | refused hmodified => simp [hmodified, Except.map] at htold
  | unseen hmodified _ => simp [hmodified, Except.map] at htold
  | unchanged hmodified hsame =>
    simp only [hmodified, Except.map, Except.ok.injEq] at htold
    rw [← hsame, htold]
  | attempted hmodified _ _ =>
    simpa only [hmodified, Except.map, Except.ok.injEq] using htold

/-- A watch makes an attempt if it is told another time than at the latest attempt. -/
theorem Watches.attempt_iff (h : o.Watches room intro files lastSeen edits looks abort)
    (hlook : looks[k]? = some look) :
    look.attempt.isSome = true ↔ ∃ time, o.toldTime look.before = .ok time ∧
      time ≠ (o.attemptTimes (looks.take k)).getLast?.getD lastSeen.seconds := by
  obtain ⟨memory, said, seen, hmemory, -, hlooks⟩ := h.exists_looks hlook
  rw [hlooks.attempt_iff, hmemory]

/-- Until another time is told, a watch remembers the one that it was told. -/
theorem Watches.recalled_of_told (h : o.Watches room intro files lastSeen edits looks abort)
    {j : Nat} {time : Seconds} (hlook : looks[j]? = some look)
    (htold : o.toldTime look.before = .ok time)
    (hk : j + 1 ≤ k) (huntold : ∀ i between, j < i → i < k → looks[i]? = some between →
      ∀ time, o.toldTime between.before ≠ .ok time) :
    (o.attemptTimes (looks.take k)).getLast?.getD lastSeen.seconds = time := by
  -- The induction goes over the looks in between, which are told no time.
  induction k, hk using Nat.le_induction with
  | base =>
    obtain ⟨memory, said, seen, hmemory, -, hlooks⟩ := h.exists_looks hlook
    rw [List.take_add_one, recalled_append, hlook, Option.toList_some, ← hmemory,
      ← hlooks.seconds_eq, hlooks.seconds_of_told htold]
  | succ k hk ih =>
    have hrest := ih fun i between hji hik => huntold i between hji (Nat.lt_succ_of_lt hik)
    rw [List.take_add_one, recalled_append, hrest]
    cases hbetween : looks[k]? with
    | none => rfl
    | some between =>
      have hsilent := attemptTimes_singleton_of_untold
        (huntold k between (Nat.lt_of_succ_le hk) (Nat.lt_succ_self k) hbetween)
      rw [Option.toList_some, hsilent]
      rfl

/-- What is due bears another time than is remembered, save that zero stands for no memory. -/
theorem exists_told_iff_isDue {earlier : List Poll} :
    (∃ time, o.toldTime files = .ok time ∧ time ≠ (o.attemptTimes earlier).getLast?.getD 0) ↔
      o.IsDue earlier files ∧ (o.attemptTimes earlier = [] → o.toldTime files ≠ .ok 0) := by
  rw [IsDue, ← List.getLast?_eq_none_iff]
  generalize (o.attemptTimes earlier).getLast? = latest
  constructor
  · rintro ⟨time, htold, hnew⟩
    refine ⟨⟨time, htold, ?_⟩, ?_⟩
    · rintro rfl
      exact hnew rfl
    · rintro rfl hzero
      exact hnew (Except.ok.inj (htold.symm.trans hzero))
  · rintro ⟨⟨time, htold, hnew⟩, hfirst⟩
    refine ⟨time, htold, ?_⟩
    rintro rfl
    cases latest with
    | none => exact hfirst rfl htold
    | some latest => exact hnew rfl

/-- **A watch compiles what is due.** It makes an attempt exactly when the input is seen and bears
another time than at the latest attempt; only that at first it takes the time zero for one that it
has seen. So if the input is seen at two looks, and not in between, an attempt is made at the later
one exactly if the times differ: whichever of them is the greater, whether the input was gone in
between, and whatever the earlier look came to. -/
theorem attempt_iff_isDue (o : Options) (room : Nat) (files : FileTree)
    (edits : List (FileTree → FileTree))
    (hlook : (o.watchEdits room files edits).looks[k]? = some look) :
    (look.attempt.isSome = true ↔
      o.IsDue ((o.watchEdits room files edits).looks.take k) look.before ∧
        (o.attemptTimes ((o.watchEdits room files edits).looks.take k) = [] →
          o.toldTime look.before ≠ .ok 0)) ∧
    ∀ j earlier time later, j < k → (o.watchEdits room files edits).looks[j]? = some earlier →
      o.toldTime earlier.before = .ok time → o.toldTime look.before = .ok later →
      (∀ i between, j < i → i < k → (o.watchEdits room files edits).looks[i]? = some between →
        ∀ time, o.toldTime between.before ≠ .ok time) →
      (look.attempt.isSome = true ↔ later ≠ time) := by
  have hwatches := o.watches_watchEdits room files edits
  have hattempt := hwatches.attempt_iff hlook
  constructor
  · rw [hattempt, Time.seconds_zero]
    exact exists_told_iff_isDue
  · intro j earlier time later hj hearlier htold hlater huntold
    rw [hattempt, hwatches.recalled_of_told hearlier htold hj huntold, hlater]
    simp

/-- An input that fails is deleted, put back with its time, and set back in time. -/
def settingBack : List (FileTree → FileTree) :=
  [(·.delete (Path.parse "in.md")), fun _ => inputModified "\x7b\x7bf()\x7d\x7d" 2000000000,
    (·.setModified (Path.parse "in.md") 1000000000)]

/-- A watch of an input that fails, over these edits. -/
def watchOfSettingBack : Watched :=
  watchOfInput.watchEdits defaultCapacity (inputModified "\x7b\x7bf()\x7d\x7d" 2000000000)
    settingBack

/-- That the input was gone does not repeat its failure, and going back in time is a change. -/
theorem attempt_iff_isDue_settingBack :
    watchOfSettingBack.looks.map
        (fun look => (look.attempt.isSome, watchOfInput.toldTime look.before)) =
      [(true, .ok (2 * secondFractions)), (false, .error .notFound),
        (false, .ok (2 * secondFractions)), (true, .ok secondFractions)] ∧
      ∃ look, watchOfSettingBack.looks[3]? = some look ∧
        watchOfInput.IsDue (watchOfSettingBack.looks.take 3) look.before ∧
        (look.attempt.isSome = true ↔ secondFractions ≠ 2 * secondFractions) := by
  have hlooks : watchOfSettingBack.looks.map
      (fun look => (look.attempt.isSome, watchOfInput.toldTime look.before)) =
      [(true, .ok (2 * secondFractions)), (false, .error .notFound),
        (false, .ok (2 * secondFractions)), (true, .ok secondFractions)] := by
    decide +kernel
  obtain ⟨restored, hrestored, hpassed⟩ := exists_of_map_eq (k := 2) hlooks rfl
  obtain ⟨look, hlook, hmade⟩ := exists_of_map_eq (k := 3) hlooks rfl
  obtain ⟨-, htold⟩ := Prod.mk.inj hpassed
  obtain ⟨hattempt, hlater⟩ := Prod.mk.inj hmade
  obtain ⟨hdue, hvisible⟩ := attempt_iff_isDue _ _ _ _ hlook
  refine ⟨hlooks, look, hlook, (hdue.mp hattempt).1, ?_⟩
  refine hvisible 2 restored _ _ (by decide) hrestored htold hlater ?_
  intro i _ hi hi'
  omega

/-- What is due is not always compiled: an input with the time zero is passed over at first. -/
theorem not_attempt_of_isDue :
    ¬ ∀ (o : Options) (room : Nat) (files : FileTree) (edits : List (FileTree → FileTree)) (k : Nat)
      (look : Poll), (o.watchEdits room files edits).looks[k]? = some look →
        (look.attempt.isSome = true ↔
          o.IsDue ((o.watchEdits room files edits).looks.take k) look.before) := by
  intro h
  have hlooks : (watchOfInput.watchEdits defaultCapacity (inputModified "hi" 0) []).looks.map
      (fun look => (look.attempt.isSome, watchOfInput.toldTime look.before)) =
      [(false, .ok 0)] := by
    decide +kernel
  obtain ⟨look, hlook, hpassed⟩ := exists_of_map_eq (k := 0) hlooks rfl
  obtain ⟨hmissed, htold⟩ := Prod.mk.inj hpassed
  have hattempt := (h _ _ _ _ _ look hlook).mpr ⟨0, htold, nofun⟩
  rw [hmissed] at hattempt
  cases hattempt

end Options

end Transclude
