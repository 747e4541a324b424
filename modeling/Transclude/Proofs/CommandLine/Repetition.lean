import Transclude.CommandLine.Run
import Transclude.Proofs.CommandLine.Once
import Transclude.Proofs.CommandLine.Watching

/-!
# A watch repeats single runs

A watch that nothing breaks off does, over and over again, what a run that does not watch does once.
A look that makes an attempt shows and leaves what the single run over the same files would, and a
word more: that the input was compiled, or that the expansion does not end. A look that makes none
shows nothing and leaves the files alone. So as long as nobody else touches the output, it holds the
text of the last attempt that succeeded, whatever has failed since.

## Main definitions

* `Options.once` — the run with the same options that does not watch
* `Options.RepeatsOnce` — what an attempt of a watch shows and leaves, beside the single run
* `Poll.latestText?` — the text of the last attempt that succeeded

## Main results

* `Options.Looks.repeatsOnce` — a look repeats the single run, or does nothing
* `Options.read_of_isChain` — what the output holds when nobody else touches it
* `Options.watch_repeats_once` — a watch repeats single runs
-/

namespace Transclude

namespace Poll

/-- The text of a look whose attempt succeeded. -/
def text? (look : Poll) : Option String :=
  look.attempt.bind (·.result.toOption)

/-- The text of the last attempt that succeeded, if one did. -/
def latestText? (looks : List Poll) : Option String :=
  (looks.filterMap text?).getLast?

theorem latestText?_cons (look : Poll) (looks : List Poll) :
    latestText? (look :: looks) = (latestText? looks).or look.text? := by
  unfold latestText?
  cases htext : look.text? with
  | none => rw [List.filterMap_cons_none htext, Option.or_none]
  | some text =>
    rw [List.filterMap_cons_some htext, List.getLast?_cons]
    cases (looks.filterMap text?).getLast? <;> rfl

end Poll

namespace Options

/-- The run with the same options that does not watch. -/
def once (o : Options) (room : Nat) (files : FileTree) : Outcome :=
  { o with watch := false }.run room files []

/-- What an attempt of a watch shows and leaves, beside the single run over the same files. -/
inductive RepeatsOnce (o : Options) (room : Nat) (files : FileTree) : String → FileTree → Prop
  /-- The run writes the text. -/
  | compiled {text} (hresult : (o.attempt room files).result = .ok text)
      (hending : (o.once room files).ending = .exited 0)
      (hread : (o.once room files).files.read o.outputFile = .ok (Utf8.encode text)) :
      o.RepeatsOnce room files ((o.once room files).stderr ++ o.successNotice)
        (o.once room files).files
  /-- The run reports an error. -/
  | reported {error} (hresult : (o.attempt room files).result = .error (.reported error))
      (hending : (o.once room files).ending = .exited error.category.exitCode)
      (hfiles : (o.once room files).files = files) :
      o.RepeatsOnce room files (o.once room files).stderr (o.once room files).files
  /-- The run runs out of room, as one that expands without end does. -/
  | endless (hresult : (o.attempt room files).result = .error (.aborted .endless))
      (hending : (o.once room files).ending = .aborted .endless)
      (hfiles : (o.once room files).files = files) :
      o.RepeatsOnce room files ((o.once room files).stderr ++ endlessNotice)
        (o.once room files).files

variable {o : Options} {files later : FileTree} {said : String} {lastSeen seen : Time}
variable {attempt : Option Attempt} {poll : Poll} {room : Nat}

theorem once_eq (o : Options) (room : Nat) (files : FileTree) :
    o.once room files = o.finish files (o.attempt room files) := rfl

/-- An attempt that does not break off the watch repeats the single run. -/
theorem Concludes.repeatsOnce (h : o.Concludes files (o.attempt room files) said later none) :
    o.RepeatsOnce room files said later := by
  -- The attempts that break off the watch are told apart by what they break it off by.
  generalize hnone : (none : Option Abort) = abort at h
  cases h with
  | @reported error hresult =>
    have honce : o.once room files = .unchanged files ""
        ((o.attempt room files).shown ++ error.report ++ "\n")
        (.exited error.category.exitCode) := by
      rw [once_eq, finish, hresult]
    have h := RepeatsOnce.reported hresult (congrArg Outcome.ending honce)
      (congrArg Outcome.files honce)
    rwa [honce] at h
  | endless hresult =>
    have honce : o.once room files =
        .unchanged files "" (o.attempt room files).shown (.aborted .endless) := by
      rw [once_eq, finish, hresult]
    have h := RepeatsOnce.endless hresult (congrArg Outcome.ending honce)
      (congrArg Outcome.files honce)
    rwa [honce] at h
  | aborted _ _ => cases hnone
  | unwritten _ _ => cases hnone
  | @compiled text _ hresult hwrite =>
    have honce : o.once room files =
        ⟨"", (o.attempt room files).shown, [], files, later, .exited 0⟩ := by
      simp only [once_eq, finish, hresult, writeOutput, hwrite, Except.mapError]
    have h := RepeatsOnce.compiled hresult (congrArg Outcome.ending honce)
      (by rw [honce]; exact FileTree.read_of_write hwrite)
    rwa [honce] at h

/-- A look that does not break off the watch repeats the single run, or does nothing. -/
theorem Looks.repeatsOnce (h : o.Looks room files lastSeen ⟨said, attempt, seen, later, none⟩) :
    (attempt = none ∧ said = "" ∧ later = files) ∨
      (attempt = some (o.attempt room files) ∧ o.RepeatsOnce room files said later) := by
  cases h with
  | unseen _ _ => exact .inl ⟨rfl, rfl, rfl⟩
  | unchanged _ _ => exact .inl ⟨rfl, rfl, rfl⟩
  | attempted _ _ hconcludes => exact .inr ⟨rfl, hconcludes.repeatsOnce⟩

/-- Behind a look the output holds the text of its attempt, or what it held before. -/
theorem Looks.read_eq {look : Poll} (h : o.Looks room look.before lastSeen
      ⟨said, look.attempt, seen, look.after, none⟩) :
    look.after.read o.outputFile =
      look.text?.elim (look.before.read o.outputFile) fun text => .ok (Utf8.encode text) := by
  unfold Poll.text?
  obtain ⟨hattempt, -, hafter⟩ | ⟨hattempt, hrepeats⟩ := h.repeatsOnce
  · rw [hattempt, hafter]
    rfl
  rw [hattempt]
  generalize look.after = after at hrepeats ⊢
  cases hrepeats with
  | compiled hresult _ hread => simpa [hresult, Except.toOption] using hread
  | reported hresult _ hfiles => simp [hresult, hfiles, Except.toOption]
  | endless hresult _ hfiles => simp [hresult, hfiles, Except.toOption]

/-- As long as nobody else touches the output, it holds the text of the last attempt that succeeded,
or what it held at first. -/
theorem read_of_isChain {first last : Poll} {rest : List Poll}
    (hread : ∀ look ∈ first :: rest, look.after.read o.outputFile =
      look.text?.elim (look.before.read o.outputFile) fun text => .ok (Utf8.encode text))
    (huntouched : (first :: rest).IsChain fun look next =>
      next.before.read o.outputFile = look.after.read o.outputFile)
    (hlast : (first :: rest).getLast? = some last) :
    last.after.read o.outputFile = (Poll.latestText? (first :: rest)).elim
      (first.before.read o.outputFile) fun text => .ok (Utf8.encode text) := by
  induction rest generalizing first with
  | nil =>
    obtain rfl : first = last := by simpa using hlast
    rw [Poll.latestText?_cons]
    exact hread first List.mem_cons_self
  | cons next rest ih =>
    obtain ⟨hnext, hchain⟩ := List.isChain_cons_cons.mp huntouched
    have hrest := ih (fun look hlook => hread look (List.mem_cons_of_mem _ hlook)) hchain
      (by simpa using hlast)
    -- What the later looks find in the output is what the first one has left there.
    rw [hrest, hnext, hread first List.mem_cons_self, Poll.latestText?_cons first]
    cases Poll.latestText? (next :: rest) <;> rfl

/-- **A watch repeats single runs.** At every look that does not break off the watch, either no
attempt is made, nothing is shown and no file is changed; or the attempt shows and leaves what the
single run over the files as they are then would, whether it succeeds, reports an error or expands
without end. In between the files are what the edits make of them. Over any stretch of looks in
which nobody else touches the output, it holds the text of the last attempt that succeeded. -/
theorem watch_repeats_once (o : Options) (room : Nat) (files : FileTree)
    (edits : List (FileTree → FileTree)) :
    (∀ k poll, (o.watchEdits room files edits).polls[k]? = some poll →
      ∃ said, poll.shown = (if k = 0 then o.watchGreeting else "") ++ said ∧
        ((poll.attempt = none ∧ said = "" ∧ poll.after = poll.before) ∨
          (poll.attempt = some (o.attempt room poll.before) ∧
            o.RepeatsOnce room poll.before said poll.after))) ∧
    (∀ first, (o.watchEdits room files edits).looks[0]? = some first → first.before = files) ∧
    (∀ k next, (o.watchEdits room files edits).looks[k + 1]? = some next →
      ∃ previous edit, (o.watchEdits room files edits).looks[k]? = some previous ∧
        edits[k]? = some edit ∧ next.before = edit previous.after) ∧
    ∀ earlier first rest later last,
      (o.watchEdits room files edits).polls = earlier ++ first :: rest ++ later →
      (first :: rest).IsChain (fun look next =>
        next.before.read o.outputFile = look.after.read o.outputFile) →
      (first :: rest).getLast? = some last →
      last.after.read o.outputFile = (Poll.latestText? (first :: rest)).elim
        (first.before.read o.outputFile) fun text => .ok (Utf8.encode text) := by
  have hwatches := o.watches_watchEdits room files edits
  refine ⟨?_, fun _ => hwatches.before_eq, fun _ _ => hwatches.exists_edit, ?_⟩
  · intro k poll hpoll
    obtain ⟨_, said, _, hshown, hlooks⟩ := exists_looks_of_polls hpoll
    exact ⟨said, hshown, hlooks.repeatsOnce⟩
  · intro earlier first rest later last hpolls huntouched hlast
    refine read_of_isChain ?_ huntouched hlast
    intro look hlook
    have hmem : look ∈ (o.watchEdits room files edits).polls := by
      rw [hpolls]
      exact List.mem_append_left _ (List.mem_append_right _ hlook)
    obtain ⟨k, hk⟩ := List.getElem?_of_mem hmem
    obtain ⟨_, _, _, -, hlooks⟩ := exists_looks_of_polls hk
    exact hlooks.read_eq

/-- Gives the input other bytes and another time. -/
def revise (content : List UInt8) (modified : Time) (files : FileTree) : FileTree :=
  (files.writeWithDirectories watchOfInput.inputFile content).setModified watchOfInput.inputFile
    modified

/-- An input is made to fail, with a time of its own; then it is deleted, is no text any more, and
includes itself. -/
def spoilings : List (FileTree → FileTree) :=
  [revise (Utf8.encode "\x7b\x7bf()\x7d\x7d") 1000000000, (·.delete watchOfInput.inputFile),
    revise [0xFF] 3000000000, revise (Utf8.encode "\x7b\x7binclude(#in.md#)\x7d\x7d") 4000000000]

/-- A watch of an input that compiles at first. -/
def watchOfSpoilings : Watched :=
  watchOfInput.watchEdits defaultCapacity (inputModified "hi" 2000000000) spoilings

/-- All that goes wrong with the input leaves the output as it was written at first. -/
theorem watch_repeats_once_spoilings :
    watchOfSpoilings.polls.map (·.attempt.isSome) = [true, true, false, true, true] ∧
      ∃ first rest last, watchOfSpoilings.polls = first :: rest ∧
        (first :: rest).IsChain (fun look next =>
          next.before.read watchOfInput.outputFile = look.after.read watchOfInput.outputFile) ∧
        (first :: rest).getLast? = some last ∧
        last.after.read watchOfInput.outputFile = .ok (Utf8.encode "hi") ∧
        ∃ said, watchOfInput.RepeatsOnce defaultCapacity last.before said last.after := by
  obtain ⟨hattempts, huntouched, htext⟩ :
      watchOfSpoilings.polls.map (·.attempt.isSome) = [true, true, false, true, true] ∧
        watchOfSpoilings.polls.IsChain (fun look next =>
          next.before.read watchOfInput.outputFile = look.after.read watchOfInput.outputFile) ∧
        Poll.latestText? watchOfSpoilings.polls = some "hi" := by
    decide +kernel
  obtain ⟨hlooks, -, -, houtput⟩ :=
    watch_repeats_once watchOfInput defaultCapacity (inputModified "hi" 2000000000) spoilings
  have hlength : watchOfSpoilings.polls.length = 5 := by
    rw [← List.length_map (fun look : Poll => look.attempt.isSome), hattempts]
    rfl
  obtain ⟨first, rest, hpolls⟩ := List.exists_cons_of_length_eq_add_one hlength
  obtain ⟨last, hlast, hattempt⟩ := exists_of_map_eq (k := 4) hattempts rfl
  have hgetLast : (first :: rest).getLast? = some last := by
    rw [List.getLast?_eq_getElem?, ← hpolls, hlength]
    exact hlast
  have hread : last.after.read watchOfInput.outputFile = .ok (Utf8.encode "hi") := by
    rw [houtput [] first rest [] last (hpolls.trans (List.append_nil _).symm) (hpolls ▸ huntouched)
      hgetLast, ← hpolls, htext]
    rfl
  obtain ⟨said, -, ⟨hnone, -⟩ | ⟨-, hrepeats⟩⟩ := hlooks 4 last hlast
  · rw [hnone] at hattempt
    cases hattempt
  · exact ⟨hattempts, first, rest, last, hpolls, hpolls ▸ huntouched, hgetLast, hread, said,
      hrepeats⟩

end Options

end Transclude
