import Transclude.Proofs.CommandLine.Breaking
import Transclude.Proofs.CommandLine.Timing

/-!
# What a watch survives

A watch goes on after every error that is reported, and after endless expansion. What it does not
survive is what nobody answers for: an output that cannot be written, a file that is needed and
whose path nobody can be asked for, and a number with too many digits. Whatever else fails, the
watch outlasts all edits.

## Main results

* `Options.Looks.abort_eq_some_iff`, `Options.Watches.abort_eq_some_iff` — what a look and a whole
  watch are broken off by
* `Options.Looks.shown_of_failure` — every other failure is shown
* `Options.watch_abort_iff` — what a watch is broken off by, and what it survives
-/

namespace Transclude.Options

variable {o : Options} {files later : FileTree} {said intro : String} {lastSeen seen : Time}
variable {attempt : Option Attempt} {abort : Abort} {ended : Option Abort} {room : Nat}
variable {edits : List (FileTree → FileTree)} {looks : List Poll} {look : Poll}

/-- What nobody answers for breaks off the watch. -/
theorem Unanswered.exists_concludes (h : o.Unanswered room files abort) :
    ∃ said later, o.Concludes files (o.attempt room files) said later (some abort) := by
  cases h with
  | brokenOff hresult _ hother => exact ⟨_, _, .aborted hresult hother⟩
  | unwritten hresult hwrite => exact ⟨_, _, .unwritten hresult hwrite⟩

/-- An attempt breaks off the watch exactly by what nobody answers for. -/
theorem Concludes.abort_eq_some_iff
    (h : o.Concludes files (o.attempt room files) said later ended) :
    ended = some abort ↔ o.Unanswered room files abort := by
  constructor
  · rintro rfl
    cases h with
    | aborted hresult hother => exact .brokenOff hresult (breaksOff_of_attempt hresult) hother
    | unwritten hresult hwrite => exact .unwritten hresult hwrite
  · intro hunanswered
    -- An attempt comes to one thing only, and here that is to break off the watch.
    obtain ⟨said', later', hconcludes⟩ := hunanswered.exists_concludes
    have hsame := (h.conclude_eq 0).symm.trans (hconcludes.conclude_eq 0)
    exact congrArg Looked.abort hsame

/-- The time of a path is refused for the path alone exactly if it holds a null character. -/
theorem modified_eq_nul_iff (files : FileTree) {path : Path} :
    files.modified path = .error .nulInPath ↔ FileTree.hasNul path = true := by
  rw [← FileTree.find_eq_nul_iff files, FileTree.modified]
  cases files.find path <;> simp [Except.map]

/-- A look is broken off because the input cannot be asked for, or by its attempt. -/
theorem Looks.abort_eq_some_iff
    (h : o.Looks room files lastSeen ⟨said, attempt, seen, later, ended⟩) :
    ended = some abort ↔
      (FileTree.hasNul o.inputFile = true ∧ abort = .inaccessible o.inputFile .nulInPath) ∨
        (attempt.isSome = true ∧ o.Unanswered room files abort) := by
  rw [← modified_eq_nul_iff files]
  cases h with
  | refused hmodified => simp [hmodified, eq_comm]
  | unseen hmodified hfault => simp [hmodified, hfault]
  | unchanged hmodified _ => simp [hmodified]
  | attempted hmodified _ hconcludes => simp [hmodified, hconcludes.abort_eq_some_iff]

/-- A watch is broken off by what breaks off one of its looks. -/
theorem Watches.abort_eq_some_iff (h : o.Watches room intro files lastSeen edits looks ended) :
    ended = some abort ↔
      ∃ look ∈ looks, (FileTree.hasNul o.inputFile = true ∧
          abort = .inaccessible o.inputFile .nulInPath) ∨
        (look.attempt.isSome = true ∧ o.Unanswered room look.before abort) := by
  induction h with
  | ended hlooks | brokenOff hlooks => simp [hlooks.abort_eq_some_iff]
  | edited hlooks _ ih =>
    have hgoes : none = some abort ↔ _ := hlooks.abort_eq_some_iff
    simp only [reduceCtorEq, false_iff] at hgoes
    simp [ih, hgoes]

/-- An error that is reported is shown, and so is that the expansion does not end; either leaves the
files alone. -/
theorem Looks.shown_of_failure (h : o.Looks room files lastSeen ⟨said, attempt, seen, later, ended⟩)
    (hattempt : attempt.isSome = true) :
    (∀ error, (o.attempt room files).result = .error (.reported error) →
      said = (o.attempt room files).shown ++ error.report ++ "\n" ∧ later = files) ∧
    ((o.attempt room files).result = .error (.aborted .endless) →
      said = (o.attempt room files).shown ++ endlessNotice ∧ later = files) := by
  cases h with
  | refused _ | unseen _ _ | unchanged _ _ => cases hattempt
  | attempted _ _ hconcludes =>
    have hconclude := hconcludes.conclude_eq seen
    constructor
    · intro error hresult
      simp only [conclude, hresult, Looked.mk.injEq] at hconclude
      exact ⟨hconclude.1.symm, hconclude.2.2.2.1.symm⟩
    · intro hresult
      simp only [conclude, hresult, Looked.mk.injEq] at hconclude
      exact ⟨hconclude.1.symm, hconclude.2.2.2.1.symm⟩

/-- **A watch is broken off only by what nobody answers for.** That is an input that nobody can be
asked for, or an attempt whose output cannot be written, or one that needs a file with such a path
or with too long a number in it. A watch that none of this happens to outlasts all edits. Every
other failure of an attempt is shown and leaves the files alone. -/
theorem watch_abort_iff (o : Options) (room : Nat) (files : FileTree)
    (edits : List (FileTree → FileTree)) :
    (∀ abort, (o.watchEdits room files edits).abort = some abort ↔
      ∃ look ∈ (o.watchEdits room files edits).looks,
        (FileTree.hasNul o.inputFile = true ∧ abort = .inaccessible o.inputFile .nulInPath) ∨
          (look.attempt.isSome = true ∧ o.Unanswered room look.before abort)) ∧
    ((o.watchEdits room files edits).abort = none →
      (o.watchEdits room files edits).looks.length = edits.length + 1) ∧
    ∀ look ∈ (o.watchEdits room files edits).looks, look.attempt.isSome = true →
      (∀ error, (o.attempt room look.before).result = .error (.reported error) →
        (∃ front, look.shown = front ++ error.report ++ "\n") ∧ look.after = look.before) ∧
      ((o.attempt room look.before).result = .error (.aborted .endless) →
        (∃ front, look.shown = front ++ endlessNotice) ∧ look.after = look.before) := by
  have hwatches := o.watches_watchEdits room files edits
  refine ⟨fun _ => hwatches.abort_eq_some_iff, hwatches.length_eq, ?_⟩
  intro look hlook hattempt
  obtain ⟨k, hk⟩ := List.getElem?_of_mem hlook
  obtain ⟨_, said, _, -, hshown, hlooks⟩ := hwatches.exists_looks hk
  obtain ⟨hreported, hendless⟩ := hlooks.shown_of_failure hattempt
  constructor
  · intro error hresult
    obtain ⟨rfl, hafter⟩ := hreported error hresult
    refine ⟨⟨(if k = 0 then o.watchGreeting else "") ++ (o.attempt room look.before).shown, ?_⟩,
      hafter⟩
    rw [hshown]
    simp only [String.append_assoc]
  · intro hresult
    obtain ⟨rfl, hafter⟩ := hendless hresult
    refine ⟨⟨(if k = 0 then o.watchGreeting else "") ++ (o.attempt room look.before).shown, ?_⟩,
      hafter⟩
    rw [hshown, String.append_assoc]

/-- The error of an input that calls a function which nobody knows. -/
def unknownFunction : CompilationError :=
  .simple (.functionNotFound "f")
    ⟨some ⟨watchOfInput.inputFile, some ⟨⟨1, 1, 0⟩, ⟨1, 8, 7⟩⟩, ""⟩, []⟩

/-- A watch of an input that fails shows why, and goes on until the last edit is made. -/
theorem watch_abort_iff_settingBack :
    watchOfSettingBack.abort = none ∧ watchOfSettingBack.looks.length = 4 ∧
      ∃ look ∈ watchOfSettingBack.looks, look.attempt.isSome = true ∧
        (watchOfInput.attempt defaultCapacity look.before).result =
          .error (.reported unknownFunction) ∧
        (∃ front, look.shown = front ++ unknownFunction.report ++ "\n") ∧
        look.after = look.before := by
  obtain ⟨-, hlength, hshown⟩ :=
    watch_abort_iff watchOfInput defaultCapacity
      (inputModified "\x7b\x7bf()\x7d\x7d" 2000000000) settingBack
  have habort : watchOfSettingBack.abort = none := by decide +kernel
  have hlooks : watchOfSettingBack.looks.map (fun look => (look.attempt.isSome,
      decide ((watchOfInput.attempt defaultCapacity look.before).result =
        .error (.reported unknownFunction)))) =
      [(true, true), (false, false), (false, true), (true, true)] := by
    decide +kernel
  obtain ⟨look, hlook, hfailed⟩ := exists_of_map_eq (k := 0) hlooks rfl
  obtain ⟨hattempt, hresult⟩ := Prod.mk.inj hfailed
  have hmem : look ∈ watchOfSettingBack.looks := List.mem_of_getElem? hlook
  exact ⟨habort, hlength habort, look, hmem, hattempt, of_decide_eq_true hresult,
    (hshown look hmem hattempt).1 unknownFunction (of_decide_eq_true hresult)⟩

/-- A watch whose output stands in a directory that is missing. -/
def watchIntoMissing : Options :=
  { watchOfInput with outputFile := Path.parse "missing/out.md" }

/-- Not every failure is survived: an output that cannot be written breaks off the watch. -/
theorem not_abort_eq_none :
    ¬ ∀ (o : Options) (room : Nat) (files : FileTree) (edits : List (FileTree → FileTree)),
      (o.watchEdits room files edits).abort = none := by
  intro h
  have hbroken :
      (watchIntoMissing.watchEdits defaultCapacity (inputModified "hi" 1000000000) []).abort =
        some (.inaccessible watchIntoMissing.outputFile .notFound) := by
    decide +kernel
  rw [h] at hbroken
  cases hbroken

end Transclude.Options
