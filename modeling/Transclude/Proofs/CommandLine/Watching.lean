import Mathlib.Data.List.Basic
import Transclude.CommandLine.Watch
import Transclude.Error.Report

/-!
# The looks of a watch

A watch is a sequence of looks. What a look does depends on the files as they are then, and on what
the watch remembers, which is the time of modification that it was told at its latest attempt.
Between the looks the files are edited, and only the last look can break off the watch.

## Main definitions

* `Watched.looks` — the looks of a watch, with the one that broke it off
* `Options.Concludes`, `Options.Looks` — what an attempt and a look come to
* `Options.Watches` — how looks and edits follow one another
* `Options.attemptTimes` — the times that a watch was told when it made attempts

## Main results

* `Options.looks_poll` — every look comes to one of its outcomes
* `Options.watches_watchEdits` — a watch looks, is edited, and goes on with what it remembers
* `Options.Watches.exists_looks` — what a watch remembers at every look
-/

namespace Transclude

/-- The looks of a watch, with the one that broke it off, if one did. -/
def Watched.looks (w : Watched) : List Poll :=
  w.polls ++ (w.abort.map fun _ => ⟨w.shown, w.attempt, w.before, w.files⟩).toList

namespace Options

/-- What an attempt of a watch comes to: what is said, the files, and what breaks off the watch. -/
inductive Concludes (o : Options) (files : FileTree) (attempt : Attempt) :
    String → FileTree → Option Abort → Prop
  | reported {error} (hresult : attempt.result = .error (.reported error)) :
      o.Concludes files attempt (attempt.shown ++ error.report ++ "\n") files none
  | endless (hresult : attempt.result = .error (.aborted .endless)) :
      o.Concludes files attempt (attempt.shown ++ endlessNotice) files none
  | aborted {abort} (hresult : attempt.result = .error (.aborted abort))
      (hother : abort ≠ .endless) :
      o.Concludes files attempt attempt.shown files (some abort)
  | unwritten {text fault} (hresult : attempt.result = .ok text)
      (hwrite : files.write o.outputFile (Utf8.encode text) = .error fault) :
      o.Concludes files attempt attempt.shown files (some (.inaccessible o.outputFile fault))
  | compiled {text later} (hresult : attempt.result = .ok text)
      (hwrite : files.write o.outputFile (Utf8.encode text) = .ok later) :
      o.Concludes files attempt (attempt.shown ++ o.successNotice) later none

/-- What a look comes to when `lastSeen` is what the watch remembers. -/
inductive Looks (o : Options) (room : Nat) (files : FileTree) (lastSeen : Time) : Looked → Prop
  /-- Nobody can be asked for the path of the input. -/
  | refused (hmodified : files.modified o.inputFile = .error .nulInPath) :
      o.Looks room files lastSeen
        ⟨"", none, lastSeen, files, some (.inaccessible o.inputFile .nulInPath)⟩
  /-- There is no input to be seen. -/
  | unseen {fault} (hmodified : files.modified o.inputFile = .error fault)
      (hfault : fault ≠ .nulInPath) :
      o.Looks room files lastSeen ⟨"", none, lastSeen, files, none⟩
  | unchanged {seen} (hmodified : files.modified o.inputFile = .ok seen)
      (hsame : seen.seconds = lastSeen.seconds) :
      o.Looks room files lastSeen ⟨"", none, lastSeen, files, none⟩
  | attempted {seen said later abort} (hmodified : files.modified o.inputFile = .ok seen)
      (hchanged : seen.seconds ≠ lastSeen.seconds)
      (hconcludes : o.Concludes files (o.attempt room files) said later abort) :
      o.Looks room files lastSeen ⟨said, some (o.attempt room files), seen, later, abort⟩

/-- How looks follow one another: after each but the last one the files are edited, and an edit that
is left over means that the watch was broken off. What is said at first is `intro`. -/
inductive Watches (o : Options) (room : Nat) : (intro : String) → FileTree → (lastSeen : Time) →
    List (FileTree → FileTree) → List Poll → Option Abort → Prop
  | ended {intro files lastSeen said attempt seen later}
      (hlooks : o.Looks room files lastSeen ⟨said, attempt, seen, later, none⟩) :
      o.Watches room intro files lastSeen [] [⟨intro ++ said, attempt, files, later⟩] none
  | brokenOff {intro files lastSeen edits said attempt seen later abort}
      (hlooks : o.Looks room files lastSeen ⟨said, attempt, seen, later, some abort⟩) :
      o.Watches room intro files lastSeen edits [⟨intro ++ said, attempt, files, later⟩]
        (some abort)
  | edited {intro files lastSeen edit rest said attempt seen later looks abort}
      (hlooks : o.Looks room files lastSeen ⟨said, attempt, seen, later, none⟩)
      (hrest : o.Watches room "" (edit later) seen rest looks abort) :
      o.Watches room intro files lastSeen (edit :: rest)
        (⟨intro ++ said, attempt, files, later⟩ :: looks) abort

/-- The time of modification of the input, as the watch is told it. -/
def toldTime (o : Options) (files : FileTree) : Except AccessFault Seconds :=
  (files.modified o.inputFile).map Time.seconds

/-- The times that were told when attempts were made, the latest one last. Whenever an attempt is
made, a time is told. -/
def attemptTimes (o : Options) (looks : List Poll) : List Seconds :=
  looks.filterMap fun look => look.attempt.bind fun _ => (o.toldTime look.before).toOption

variable {o : Options} {files later : FileTree} {intro said : String} {lastSeen seen : Time}
variable {edits : List (FileTree → FileTree)} {looks : List Poll} {look : Poll} {k : Nat}
variable {attempt : Option Attempt} {abort : Option Abort} {room : Nat}

/-- What an attempt comes to is one of five things. -/
theorem exists_concludes (o : Options) (files : FileTree) (seen : Time) (a : Attempt) :
    ∃ said later abort, o.conclude files seen a = ⟨said, some a, seen, later, abort⟩ ∧
      o.Concludes files a said later abort := by
  unfold conclude
  split
  · rename_i error hresult
    exact ⟨_, _, _, rfl, .reported hresult⟩
  · rename_i hresult
    exact ⟨_, _, _, rfl, .endless hresult⟩
  · rename_i abort hother hresult
    exact ⟨_, _, _, rfl, .aborted hresult (by rintro rfl; exact hother rfl)⟩
  · rename_i text hresult
    unfold writeOutput
    cases hwrite : files.write o.outputFile (Utf8.encode text) with
    | error fault => exact ⟨_, _, _, rfl, .unwritten hresult hwrite⟩
    | ok later => exact ⟨_, _, _, rfl, .compiled hresult hwrite⟩

/-- What an attempt comes to is certain. -/
theorem Concludes.conclude_eq {a : Attempt} (h : o.Concludes files a said later abort)
    (seen : Time) : o.conclude files seen a = ⟨said, some a, seen, later, abort⟩ := by
  cases h with
  | reported hresult => simp only [conclude, hresult]
  | endless hresult => simp only [conclude, hresult]
  | @aborted abort hresult hother =>
    cases abort with
    | endless => exact absurd rfl hother
    | _ => simp only [conclude, hresult]
  | unwritten hresult hwrite => simp only [conclude, hresult, writeOutput, hwrite, Except.mapError]
  | compiled hresult hwrite => simp only [conclude, hresult, writeOutput, hwrite, Except.mapError]

/-- Every look comes to one of its outcomes. -/
theorem looks_poll (o : Options) (room : Nat) (files : FileTree) (lastSeen : Time) :
    o.Looks room files lastSeen (o.poll room files lastSeen) := by
  unfold poll
  split
  · rename_i hmodified
    exact .refused hmodified
  · rename_i fault hfault hmodified
    exact .unseen hmodified (by rintro rfl; exact hfault rfl)
  · rename_i seen hmodified
    split
    · rename_i hsame
      exact .unchanged hmodified hsame
    · rename_i hchanged
      obtain ⟨said, later, abort, hconclude, hconcludes⟩ :=
        exists_concludes o files seen (o.attempt room files)
      rw [hconclude]
      exact .attempted hmodified hchanged hconcludes

/-- A watch looks, is edited, and goes on with what it remembers. -/
theorem watches_watchFrom (o : Options) (room : Nat) (intro : String) (files : FileTree)
    (lastSeen : Time) (edits : List (FileTree → FileTree)) :
    o.Watches room intro files lastSeen edits (o.watchFrom room intro files lastSeen edits).looks
      (o.watchFrom room intro files lastSeen edits).abort := by
  induction edits generalizing intro files lastSeen with
  | nil =>
    have hlooks := o.looks_poll room files lastSeen
    unfold watchFrom
    generalize o.poll room files lastSeen = looked at hlooks ⊢
    obtain ⟨said, attempt, seen, later, _ | abort⟩ := looked
    · exact .ended hlooks
    · exact .brokenOff hlooks
  | cons edit rest ih =>
    have hlooks := o.looks_poll room files lastSeen
    unfold watchFrom
    generalize o.poll room files lastSeen = looked at hlooks ⊢
    obtain ⟨said, attempt, seen, later, _ | abort⟩ := looked
    · exact .edited hlooks (ih _ _ _)
    · exact .brokenOff hlooks

theorem attemptTimes_append (o : Options) (looks later : List Poll) :
    o.attemptTimes (looks ++ later) = o.attemptTimes looks ++ o.attemptTimes later :=
  List.filterMap_append

/-- What is remembered behind looks and later ones is what the later ones leave of it. -/
theorem recalled_append (o : Options) (looks later : List Poll) (time : Seconds) :
    (o.attemptTimes (looks ++ later)).getLast?.getD time =
      (o.attemptTimes later).getLast?.getD ((o.attemptTimes looks).getLast?.getD time) := by
  rw [attemptTimes_append, List.getLast?_append, Option.getD_or]

/-- Behind a look the watch remembers the time of its attempt, or what it remembered before. -/
theorem Looks.seconds_eq (h : o.Looks room files lastSeen ⟨said, attempt, seen, later, abort⟩)
    (shown : String) :
    seen.seconds =
      (o.attemptTimes [⟨shown, attempt, files, later⟩]).getLast?.getD lastSeen.seconds := by
  cases h with
  | refused _ => rfl
  | unseen _ _ => rfl
  | unchanged _ _ => rfl
  | attempted hmodified _ _ => simp [attemptTimes, toldTime, hmodified, Except.map, Except.toOption]

/-- A watch has one look at least. -/
theorem Watches.length_pos (h : o.Watches room intro files lastSeen edits looks abort) :
    0 < looks.length := by
  cases h <;> simp

/-- At every look the watch remembers the time of the latest attempt before it, and only the last
one can break it off. -/
theorem Watches.exists_looks (h : o.Watches room intro files lastSeen edits looks abort)
    (hlook : looks[k]? = some look) :
    ∃ memory said seen, memory.seconds =
        (o.attemptTimes (looks.take k)).getLast?.getD lastSeen.seconds ∧
      look.shown = (if k = 0 then intro else "") ++ said ∧
      o.Looks room look.before memory
        ⟨said, look.attempt, seen, look.after, if k + 1 = looks.length then abort else none⟩ := by
  induction h generalizing k with
  | @ended _ _ lastSeen said _ seen _ hlooks =>
    obtain ⟨rfl, rfl⟩ : k = 0 ∧ _ = look := by simpa [List.getElem?_singleton] using hlook
    exact ⟨lastSeen, said, seen, rfl, rfl, hlooks⟩
  | @brokenOff _ _ lastSeen _ said _ seen _ abort hlooks =>
    obtain ⟨rfl, rfl⟩ : k = 0 ∧ _ = look := by simpa [List.getElem?_singleton] using hlook
    exact ⟨lastSeen, said, seen, rfl, rfl, hlooks⟩
  | @edited intro files lastSeen _ _ said attempt seen later looks _ hlooks hrest ih =>
    cases k with
    | zero =>
      cases hlook
      -- Another look follows, so the first one is not the last.
      have hpos := hrest.length_pos
      have hmore : ¬ 0 + 1 = looks.length + 1 := by omega
      refine ⟨lastSeen, said, seen, rfl, rfl, ?_⟩
      rw [List.length_cons, if_neg hmore]
      exact hlooks
    | succ k =>
      obtain ⟨memory, said', seen', hmemory, hshown, hlooks'⟩ := ih hlook
      refine ⟨memory, said', seen', ?_, by simpa using hshown, by simpa using hlooks'⟩
      -- The later looks begin with what the first one leaves behind.
      rw [hmemory, hlooks.seconds_eq (intro ++ said), ← recalled_append]
      rfl

/-- The first look finds the files as they are at the beginning. -/
theorem Watches.before_eq (h : o.Watches room intro files lastSeen edits looks abort)
    (hlook : looks[0]? = some look) : look.before = files := by
  cases h <;> cases hlook <;> rfl

/-- Every later look finds what an edit has made of the files behind the look before. -/
theorem Watches.exists_edit (h : o.Watches room intro files lastSeen edits looks abort)
    (hlook : looks[k + 1]? = some look) :
    ∃ previous edit, looks[k]? = some previous ∧ edits[k]? = some edit ∧
      look.before = edit previous.after := by
  induction h generalizing k with
  | ended _ => cases hlook
  | brokenOff _ => cases hlook
  | @edited _ _ _ edit _ _ _ _ _ _ _ _ hrest ih =>
    cases k with
    | zero => exact ⟨_, edit, rfl, rfl, hrest.before_eq hlook⟩
    | succ k => exact ih hlook

/-- A watch that nothing breaks off looks before every edit and behind the last one. -/
theorem Watches.length_eq (h : o.Watches room intro files lastSeen edits looks abort)
    (hends : abort = none) : looks.length = edits.length + 1 := by
  induction h with
  | ended _ => rfl
  | brokenOff _ => cases hends
  | edited _ _ ih => rw [List.length_cons, List.length_cons, ih hends]

/-- A watch begins with its greeting, and remembers the time zero. -/
theorem watches_watchEdits (o : Options) (room : Nat) (files : FileTree)
    (edits : List (FileTree → FileTree)) :
    o.Watches room o.watchGreeting files 0 edits (o.watchEdits room files edits).looks
      (o.watchEdits room files edits).abort :=
  o.watches_watchFrom room o.watchGreeting files 0 edits

/-- The looks of a watch that were completed come to what breaks nothing off. -/
theorem exists_looks_of_polls {o : Options} {edits : List (FileTree → FileTree)} {poll : Poll}
    (hpoll : (o.watchEdits room files edits).polls[k]? = some poll) :
    ∃ memory said seen, poll.shown = (if k = 0 then o.watchGreeting else "") ++ said ∧
      o.Looks room poll.before memory ⟨said, poll.attempt, seen, poll.after, none⟩ := by
  have hk : k < (o.watchEdits room files edits).polls.length :=
    (List.getElem?_eq_some_iff.mp hpoll).1
  have hlook : (o.watchEdits room files edits).looks[k]? = some poll := by
    rw [Watched.looks, List.getElem?_append_left hk, hpoll]
  obtain ⟨memory, said, seen, -, hshown, hlooks⟩ :=
    (o.watches_watchEdits room files edits).exists_looks hlook
  refine ⟨memory, said, seen, hshown, ?_⟩
  rw [Watched.looks, List.length_append] at hlooks
  cases habort : (o.watchEdits room files edits).abort with
  | none => simpa [habort] using hlooks
  | some abort =>
    have hmore : ¬ k + 1 = (o.watchEdits room files edits).polls.length + 1 := by omega
    rw [habort, Option.map_some, Option.toList_some, List.length_singleton, if_neg hmore] at hlooks
    exact hlooks

/-- What is listed of looks can be read off each of them. -/
theorem exists_of_map_eq {α : Type} {f : Poll → α} {values : List α} {value : α}
    (h : looks.map f = values) (hvalue : values[k]? = some value) :
    ∃ look, looks[k]? = some look ∧ f look = value := by
  subst h
  simpa [List.getElem?_map] using hvalue

/-- A plain watch of one input. -/
def watchOfInput : Options where
  inputFile := Path.parse "in.md"
  outputFile := Path.parse "dist.md"
  maxDepth := none
  strict := false
  watch := true
  debug := false
  verbose := false

/-- An input of the given content, last modified at the given time. -/
def inputModified (content : String) (modified : Time) : FileTree where
  workingDirectory := []
  clock := 0
  pathLimit := none
  entries := [([], .directory 0), (["in.md"], .file (Utf8.encode content) modified)]

end Options

end Transclude
