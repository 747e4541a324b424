import Mathlib.Logic.Relation
import Transclude.Proofs.Expansion.Derivation

/-!
# Expansion step by step

An expansion under a limit is told here as a machine that has no notion of room. It goes through
nodes from left to right and keeps, for every call that is being expanded, what is left to do behind
it. A call with as many calls around it as the limit allows is an error; any other one is answered,
and what it is answered with is gone through in its turn. Nothing is asked of the answers: they may
be longer every time, be different every time, and hold the same call again.

Nevertheless every run of the machine ends. With each call that is entered there is less of the
limit left, and otherwise the nodes at hand become fewer. A run ends with passages or with a
failure, and on the way calls nest no deeper than the limit allows. If the providers of an expander
answer, it ends with what the document is expanded to, however much room there is besides.

## Main definitions

* `Level`, `Frame` — nodes that are gone through, and a call within which others are
* `Machine` — the states of an expansion
* `Machine.Step`, `Machine.Reaches` — what happens next, and what comes of it
* `Machine.ended` — the state in which nothing is left to do
* `Expander.answers` — the answers of the providers of an expander

## Main results

* `Machine.wellFounded_step` — no run goes on for ever
* `Machine.exists_ended_of_stuck` — a run ends with passages or with a failure
* `Machine.Reaches.length_around_le` — calls nest no deeper than the limit allows
* `Machine.Reaches.exists_answer_of_aborted` — a run breaks off only if a call is answered so
* `Expander.reaches_and_stuck_iff` — the machine ends with what a document is expanded to
-/

namespace Transclude

/-- Nodes that are gone through: those left to do, and the passages of those done. -/
structure Level where
  pending : List Node
  passages : List Passage

/-- A call that is being expanded, on a level where the nodes behind it are left to do. -/
structure Frame where
  call : Call
  level : Level

/-- A state of an expansion. The calls that are being expanded come innermost first. -/
inductive Machine
  /-- Nodes are gone through. -/
  | working (level : Level) (around : List Frame)
  /-- A failure escapes from the calls around. -/
  | failing (failure : Failure CompilationError) (around : List Frame)

namespace Machine

/-- How calls may be answered. -/
abbrev Answers := Call → Except (Failure CompilationError) Document → Prop

/-- The calls that are being expanded, innermost first. -/
def around : Machine → List Frame
  | working _ around => around
  | failing _ around => around

/-- The state in which the expansion of a document starts. -/
def start (d : Document) : Machine :=
  working ⟨d.nodes, []⟩ []

/-- The state in which nothing is left to do. -/
def ended : Except (Failure CompilationError) (List Passage) → Machine
  | .ok passages => working ⟨[], passages⟩ []
  | .error failure => failing failure []

/-- What happens next under a limit. A call may be answered by any of its answers. -/
inductive Step (limit : Int) (answers : Answers) : Machine → Machine → Prop
  | text {t rest passages around} :
      Step limit answers (working ⟨.text t :: rest, passages⟩ around)
        (working ⟨rest, passages ++ [t]⟩ around)
  | tooDeep {c rest passages around} (hlimit : limit ≤ around.length) :
      Step limit answers (working ⟨.call c :: rest, passages⟩ around)
        (failing (.reported ((CompilationError.ofFault (.depthExceeded limit)).escapeFrom c))
          around)
  | failed {c rest passages around failure} (hlimit : around.length < limit)
      (hanswer : answers c (.error failure)) :
      Step limit answers (working ⟨.call c :: rest, passages⟩ around)
        (failing (failure.map (·.escapeFrom c)) around)
  | enter {c rest passages around d} (hlimit : around.length < limit)
      (hanswer : answers c (.ok d)) :
      Step limit answers (working ⟨.call c :: rest, passages⟩ around)
        (working ⟨d.nodes, []⟩ (⟨c, ⟨rest, passages⟩⟩ :: around))
  /-- What a call is expanded to takes its place. -/
  | leave {c rest passages inner around} :
      Step limit answers (working ⟨[], inner⟩ (⟨c, ⟨rest, passages⟩⟩ :: around))
        (working ⟨rest, passages ++ inner⟩ around)
  | unwind {failure c level around} :
      Step limit answers (failing failure (⟨c, level⟩ :: around))
        (failing (failure.map (·.escapeFrom c)) around)

/-- What comes of a state after some steps. -/
def Reaches (limit : Int) (answers : Answers) : Machine → Machine → Prop :=
  Relation.ReflTransGen (Step limit answers)

/-- No run from the state goes on for ever. -/
abbrev Halts (limit : Int) (answers : Answers) (state : Machine) : Prop :=
  Acc (fun next state => Step limit answers state next) state

/-- Nothing happens next. -/
def Stuck (limit : Int) (answers : Answers) (state : Machine) : Prop :=
  ∀ next, ¬ Step limit answers state next

variable {limit : Int} {answers : Answers} {state next next' : Machine} {frames : List Frame}
variable {d : Document}

/-- A failure has escaped from all calls after as many steps. -/
theorem halts_failing (failure : Failure CompilationError) (frames : List Frame) :
    Halts limit answers (failing failure frames) := by
  induction frames generalizing failure with
  | nil =>
    refine ⟨_, fun next hstep => ?_⟩
    cases hstep
  | cons frame frames ih =>
    refine ⟨_, fun next hstep => ?_⟩
    cases hstep with
    | unwind => exact ih _

/-- Going through nodes ends if what happens behind them does, and if every call that is entered on
the way does, behind which going on ends. The nodes that are left to do become fewer. -/
theorem halts_level
    (hleave : ∀ passages next, Step limit answers (working ⟨[], passages⟩ frames) next →
      Halts limit answers next)
    (henter : ∀ frame (d : Document), frames.length < limit →
      (∀ passages next, Step limit answers (working ⟨[], passages⟩ (frame :: frames)) next →
        Halts limit answers next) →
      Halts limit answers (working ⟨d.nodes, []⟩ (frame :: frames)))
    (nodes : List Node) (passages : List Passage) :
    Halts limit answers (working ⟨nodes, passages⟩ frames) := by
  induction nodes generalizing passages with
  | nil => exact ⟨_, hleave passages⟩
  | cons node rest ih =>
    refine ⟨_, fun next hstep => ?_⟩
    cases hstep with
    | text => exact ih _
    | tooDeep _ => exact halts_failing _ _
    | failed _ _ => exact halts_failing _ _
    | @enter _ _ _ _ d hlimit _ =>
      -- Behind the call, the level goes on with fewer nodes, whatever the call is expanded to.
      refine henter _ d hlimit fun inner next hstep => ?_
      cases hstep with
      | leave => exact ih _

/-- Going through nodes ends if what happens behind them does. With every call that is entered there
is less of the limit left. -/
theorem halts_working (room : Nat) (hroom : limit ≤ frames.length + room)
    (hleave : ∀ passages next, Step limit answers (working ⟨[], passages⟩ frames) next →
      Halts limit answers next)
    (nodes : List Node) (passages : List Passage) :
    Halts limit answers (working ⟨nodes, passages⟩ frames) := by
  induction room generalizing frames nodes passages with
  | zero => exact halts_level hleave (fun _ _ hlimit _ => by omega) nodes passages
  | succ room ih =>
    refine halts_level hleave (fun frame d _ hbehind => ?_) nodes passages
    exact ih (by rw [List.length_cons]; omega) hbehind d.nodes []

/-- **No run goes on for ever.** -/
theorem wellFounded_step (limit : Int) (answers : Answers) :
    WellFounded fun next state => Step limit answers state next := by
  have hworking (frames : List Frame) :
      ∀ level, Halts limit answers (working level frames) := by
    induction frames with
    | nil =>
      rintro ⟨nodes, passages⟩
      refine halts_working limit.toNat (by omega) ?_ nodes passages
      intro inner next hstep
      cases hstep
    | cons frame frames ih =>
      rintro ⟨nodes, passages⟩
      refine halts_working limit.toNat (by omega) ?_ nodes passages
      intro inner next hstep
      cases hstep with
      | leave => exact ih _
  refine ⟨fun state => ?_⟩
  cases state with
  | working level frames => exact hworking frames level
  | failing failure frames => exact halts_failing failure frames

/-- A state in which something is left to do goes on, if every call is answered. -/
theorem exists_ended_of_stuck (hanswers : ∀ c, ∃ answer, answers c answer)
    (h : Stuck limit answers state) : ∃ outcome, state = ended outcome := by
  cases state with
  | failing failure frames =>
    cases frames with
    | nil => exact ⟨.error failure, rfl⟩
    | cons frame frames => exact absurd .unwind (h _)
  | working level frames =>
    obtain ⟨nodes, passages⟩ := level
    cases nodes with
    | nil =>
      cases frames with
      | nil => exact ⟨.ok passages, rfl⟩
      | cons frame frames => exact absurd .leave (h _)
    | cons node rest =>
      cases node with
      | text t => exact absurd .text (h _)
      | call c =>
        by_cases hlimit : limit ≤ frames.length
        · exact absurd (.tooDeep hlimit) (h _)
        have hlimit := Int.not_le.mp hlimit
        obtain ⟨failure | d, hanswer⟩ := hanswers c
        · exact absurd (.failed hlimit hanswer) (h _)
        · exact absurd (.enter hlimit hanswer) (h _)

theorem stuck_ended (outcome : Except (Failure CompilationError) (List Passage)) :
    Stuck limit answers (ended outcome) := by
  intro next hstep
  cases outcome <;> cases hstep

/-- Nothing else comes of a state in which nothing happens next. -/
theorem Stuck.eq_of_reaches (h : Stuck limit answers state)
    (hreaches : Reaches limit answers state next) : next = state := by
  obtain heq | ⟨_, hstep, -⟩ := Relation.ReflTransGen.cases_head hreaches
  · exact heq.symm
  · exact absurd hstep (h _)

/-- A step leaves no more calls around than the limit allows. -/
theorem Step.length_around_le (h : Step limit answers state next)
    (hle : state.around.length ≤ limit.toNat) : next.around.length ≤ limit.toNat := by
  cases h <;> simp only [around, List.length_cons] at hle ⊢ <;> omega

/-- Calls nest no deeper than the limit allows. -/
theorem Reaches.length_around_le (h : Reaches limit answers (start d) state) :
    state.around.length ≤ limit.toNat := by
  induction h with
  | refl => exact Nat.zero_le _
  | tail _ hstep ih => exact hstep.length_around_le ih

/-- Only answers break off a run. -/
theorem Reaches.exists_answer_of_aborted {abort : Abort}
    (h : Reaches limit answers (start d) (failing (.aborted abort) frames)) :
    ∃ c, answers c (.error (.aborted abort)) := by
  generalize hstate : failing (.aborted abort) frames = state at h
  -- The limit is told by an error, and escaping from a call leaves what breaks off as it is.
  induction h generalizing frames with
  | refl => cases hstate
  | tail _ hstep ih =>
    cases hstep with
    | text | enter _ _ | leave | tooDeep _ => cases hstate
    | @failed c _ _ _ failure _ hanswer =>
      cases failure with
      | reported error => cases hstate
      | aborted other =>
        cases hstate
        exact ⟨c, hanswer⟩
    | @unwind failure =>
      cases failure with
      | reported error => cases hstate
      | aborted other =>
        cases hstate
        exact ih rfl

/-- If every call has one answer, one thing happens next. -/
theorem Step.unique (hanswers : ∀ c answer answer', answers c answer → answers c answer' →
      answer = answer') (h : Step limit answers state next) (h' : Step limit answers state next') :
    next = next' := by
  cases h with
  | text | leave | unwind =>
    cases h'
    rfl
  | tooDeep hlimit =>
    cases h' with
    | tooDeep _ => rfl
    | failed hlimit' _ | enter hlimit' _ => omega
  | failed hlimit hanswer =>
    cases h' with
    | tooDeep hlimit' => omega
    | failed _ hanswer' =>
      cases hanswers _ _ _ hanswer hanswer'
      rfl
    | enter _ hanswer' => cases hanswers _ _ _ hanswer hanswer'
  | enter hlimit hanswer =>
    cases h' with
    | tooDeep hlimit' => omega
    | failed _ hanswer' => cases hanswers _ _ _ hanswer hanswer'
    | enter _ hanswer' =>
      cases hanswers _ _ _ hanswer hanswer'
      rfl

end Machine

namespace Expander

open Machine

variable {e : Expander} {limit : Int} {room capacity : Nat} {nodes : List Node}
variable {events : List Event} {passages : List Passage} {frames : List Frame}
variable {around : List Call} {d : Call} {stop : Stop}

/-- The providers of an expander answer a call with what dispatching it comes to. -/
def answers (e : Expander) : Answers := fun c answer =>
  (e.dispatch c).result = answer

/-- Nodes that are completed are gone through, and then those behind them are left to do. -/
theorem Completes.reaches (h : e.Completes room nodes events passages)
    (hroom : limit.toNat = frames.length + room) (rest : List Node) (before : List Passage) :
    Reaches limit e.answers (working ⟨nodes ++ rest, before⟩ frames)
      (working ⟨rest, before ++ passages⟩ frames) := by
  induction h generalizing rest before frames with
  | nil =>
    rw [List.append_nil]
    exact .refl
  | @text _ t _ _ _ _ ih =>
    have hbehind := ih hroom rest (before ++ [t])
    rw [List.append_assoc] at hbehind
    exact .head .text hbehind
  | @call room c nodes _ produced _ passages _ _ hdispatch _ _ ihinner ihrest =>
    -- The call is entered, what it produces is gone through, and the passages take its place.
    have hlimit : (frames.length : Int) < limit := by omega
    have hinner := @ihinner (⟨c, ⟨nodes ++ rest, before⟩⟩ :: frames) (by simp; omega) [] []
    rw [List.append_nil, List.nil_append] at hinner
    have hbehind := ihrest hroom rest (before ++ passages)
    rw [List.append_assoc] at hbehind
    have hentered := hinner.trans (.head .leave hbehind)
    exact .head (.enter hlimit (congrArg Run.result hdispatch)) hentered

/-- Where an expansion stops, the failure escapes from the call there and from all calls around. -/
theorem StopsAt.reaches (h : e.StopsAt room nodes events around d stop)
    (hroom : limit.toNat = frames.length + room) (before : List Passage) :
    Reaches limit e.answers (working ⟨nodes, before⟩ frames)
      (failing ((stop.failure (.reported (.ofFault (.depthExceeded limit)))).map
        ((around ++ [d]).foldr CompilationError.escapeFrom)) frames) := by
  induction h generalizing before frames with
  | exhausted => exact .single (.tooDeep (by omega))
  | failed hdispatch => exact .single (.failed (by omega) (congrArg Run.result hdispatch))
  | @within room c nodes _ produced _ _ _ _ hdispatch _ ih =>
    -- Inside the call there is one frame more and one less of room.
    have hlimit : (frames.length : Int) < limit := by omega
    have hinner := @ih (⟨c, ⟨nodes, before⟩⟩ :: frames) (by simp; omega) []
    have hescaped := hinner.tail .unwind
    rw [Failure.map_map] at hescaped
    exact .head (.enter hlimit (congrArg Run.result hdispatch)) hescaped
  | behindText _ ih => exact .head .text (ih hroom _)
  | @behindCall _ _ rest _ _ _ _ _ _ _ _ hdispatch hinner _ ih =>
    have hcall := (Completes.call hdispatch hinner .nil).reaches hroom rest before
    exact hcall.trans (ih hroom _)

/-- What a document is expanded to under a limit is what comes of it, whatever room there is. -/
theorem reaches_ended (hcapacity : limit ≤ capacity) (document : Document) :
    Reaches limit e.answers (start document)
      (ended (e.expand (some limit) capacity document).result) := by
  have hroom : limit.toNat = ([] : List Frame).length + initialRoom (some limit) capacity := by
    simp [initialRoom, hcapacity]
  have hexhaustion : exhaustion (some limit) capacity =
      .reported (.ofFault (.depthExceeded limit)) := by
    simp [exhaustion, hcapacity]
  obtain ⟨events, passages, hcompletes, hrun⟩ | ⟨events, around, c, stop, hstops, hrun⟩ :=
    e.expand_cases (some limit) capacity document
  · rw [hrun]
    have hreaches := hcompletes.reaches hroom [] []
    rwa [List.append_nil, List.nil_append] at hreaches
  · rw [hrun, hexhaustion]
    exact hstops.reaches hroom []

/-- **The machine ends with what a document is expanded to**, and with nothing else. -/
theorem reaches_and_stuck_iff (hcapacity : limit ≤ capacity) (document : Document)
    (state : Machine) :
    Reaches limit e.answers (start document) state ∧ Stuck limit e.answers state ↔
      state = ended (e.expand (some limit) capacity document).result := by
  have hends := e.reaches_ended hcapacity document
  constructor
  · rintro ⟨hreaches, hstuck⟩
    -- Only one thing can happen next, so of two states that are reached one leads to the other.
    have hunique : Relator.RightUnique (Step limit e.answers) := fun _ _ _ h h' =>
      h.unique (fun _ _ _ hanswer hanswer' => hanswer.symm.trans hanswer') h'
    obtain hgoes | hgoes := Relation.ReflTransGen.total_of_right_unique hunique hreaches hends
    · exact (hstuck.eq_of_reaches hgoes).symm
    · exact (stuck_ended _).eq_of_reaches hgoes
  · rintro rfl
    exact ⟨hends, stuck_ended _⟩

end Expander

end Transclude
