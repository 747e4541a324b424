import Transclude.Document.Basic
import Transclude.Error.Fault

/-!
# Compilation errors

A compilation error is a fault, or another error met while a further document was processed,
together with what is known of its place: the location, and the calls whose expansion the error
escaped from, innermost first. A location once known is kept.

## Main definitions

* `Location`, `Trace` — where an error stands, and how it was reached
* `CompilationError` — a fault or a nested error, with its trace
* `CompilationError.locate` — give an error a location unless it has one
* `CompilationError.addFrame` — record one more call that the error escaped from
* `CompilationError.escapeFrom` — what happens to an error that escapes from a call

## Main results

* `CompilationError.message_escapeFrom` — escaping from a call leaves the message as it is
* `CompilationError.foldr_escapeFrom_of_located`, `CompilationError.foldr_escapeFrom_of_unlocated` —
  what is known of an error's place after it has escaped from calls within calls
* `CompilationError.exists_foldr_escapeFrom_eq` — nothing else of the error changes
-/

namespace Transclude

/-- Where an error stands: the document, the stretch in it, and the text of the document. -/
structure Location where
  origin : Path
  span : Option Span
  source : String
  deriving DecidableEq

/-- What is known of an error's place. -/
structure Trace where
  /-- Where the error stands, once that is known. -/
  location : Option Location
  /-- The calls whose expansion the error escaped from, innermost first. -/
  expansion : List Call
  deriving DecidableEq

/-- The trace of an error of which only the cause is known. -/
def Trace.unknown : Trace := ⟨none, []⟩

/-- An error that a compilation ends with. -/
inductive CompilationError
  | simple (fault : Fault) (trace : Trace)
  /-- An error that another document ended with. -/
  | nested (cause : CompilationError) (trace : Trace)
  deriving DecidableEq

namespace CompilationError

/-- The error that has just arisen from a fault. -/
def ofFault (fault : Fault) : CompilationError :=
  simple fault .unknown

/-- The error that has just arisen from the error of another document. -/
def ofCause (cause : CompilationError) : CompilationError :=
  nested cause .unknown

/-- What is known of the error's place. -/
def trace : CompilationError → Trace
  | simple _ trace => trace
  | nested _ trace => trace

/-- The error with another trace. -/
def withTrace (error : CompilationError) (trace : Trace) : CompilationError :=
  match error with
  | simple fault _ => simple fault trace
  | nested cause _ => nested cause trace

/-- The error of the other document, if there is one. -/
def cause? : CompilationError → Option CompilationError
  | simple _ _ => none
  | nested cause _ => some cause

/-- The part of the work that an error belongs to. -/
def category : CompilationError → Category
  | simple fault _ => fault.category
  | nested _ _ => .provider

/-- How an error is told, without its place. -/
def message : CompilationError → String
  | simple fault _ => fault.message
  | nested cause _ => s!"nested compilation error: {cause.message}"

/-- Gives an error a location unless it has one. -/
def locate (error : CompilationError) (location : Location) : CompilationError :=
  match error.trace.location with
  | some _ => error
  | none => error.withTrace { error.trace with location := some location }

/-- Records one more call that the error escaped from. -/
def addFrame (error : CompilationError) (call : Call) : CompilationError :=
  error.withTrace { error.trace with expansion := error.trace.expansion ++ [call] }

/-- What happens to an error that escapes from the expansion of a call: an error without a
location is located at the call, and any other one records the call. -/
def escapeFrom (call : Call) (error : CompilationError) : CompilationError :=
  match error.trace.location with
  | some _ => error.addFrame call
  | none => error.locate ⟨call.origin, call.span, ""⟩

/-- The error with `f` done to the cause that lies `depth` causes deep, if there is one. -/
def modifyCause? (f : CompilationError → CompilationError) :
    (depth : Nat) → CompilationError → Option CompilationError
  | 0, error => some (f error)
  | depth + 1, nested cause trace => (modifyCause? f depth cause).map (nested · trace)
  | _ + 1, simple _ _ => none

/-- The cause of an error that has no further cause. -/
def rootCause : CompilationError → CompilationError
  | simple fault trace => simple fault trace
  | nested cause _ => cause.rootCause

/-- Whether every call that the error or one of its causes escaped from has a place. -/
def isPlaced : CompilationError → Bool
  | simple _ trace => trace.expansion.all (·.span.isSome)
  | nested cause trace => trace.expansion.all (·.span.isSome) && cause.isPlaced

@[simp] theorem trace_withTrace (error : CompilationError) (trace : Trace) :
    (error.withTrace trace).trace = trace := by
  cases error <;> rfl

@[simp] theorem withTrace_withTrace (error : CompilationError) (trace trace' : Trace) :
    (error.withTrace trace).withTrace trace' = error.withTrace trace' := by
  cases error <;> rfl

theorem withTrace_of_trace_eq {error : CompilationError} {trace : Trace}
    (h : error.trace = trace) : error.withTrace trace = error := by
  subst h
  cases error <;> rfl

@[simp] theorem cause?_withTrace (error : CompilationError) (trace : Trace) :
    (error.withTrace trace).cause? = error.cause? := by
  cases error <;> rfl

@[simp] theorem category_withTrace (error : CompilationError) (trace : Trace) :
    (error.withTrace trace).category = error.category := by
  cases error <;> rfl

@[simp] theorem message_withTrace (error : CompilationError) (trace : Trace) :
    (error.withTrace trace).message = error.message := by
  cases error <;> rfl

@[simp] theorem message_locate (error : CompilationError) (location : Location) :
    (error.locate location).message = error.message := by
  unfold locate
  split <;> simp

@[simp] theorem message_addFrame (error : CompilationError) (call : Call) :
    (error.addFrame call).message = error.message := by
  simp [addFrame]

@[simp] theorem message_escapeFrom (error : CompilationError) (call : Call) :
    (error.escapeFrom call).message = error.message := by
  unfold escapeFrom
  split <;> simp

theorem escapeFrom_of_unlocated {error : CompilationError} (h : error.trace.location = none)
    (call : Call) :
    error.escapeFrom call =
      error.withTrace ⟨some ⟨call.origin, call.span, ""⟩, error.trace.expansion⟩ := by
  simp [escapeFrom, locate, h]

theorem escapeFrom_of_located {error : CompilationError} {location : Location}
    (h : error.trace.location = some location) (call : Call) :
    error.escapeFrom call =
      error.withTrace ⟨some location, error.trace.expansion ++ [call]⟩ := by
  simp [escapeFrom, addFrame, h]

/-- An error that is located keeps its location while it escapes from calls, given outermost
first, and records them all. -/
theorem foldr_escapeFrom_of_located {error : CompilationError} {location : Location}
    (h : error.trace.location = some location) (calls : List Call) :
    calls.foldr escapeFrom error =
      error.withTrace ⟨some location, error.trace.expansion ++ calls.reverse⟩ := by
  induction calls with
  | nil =>
    rw [List.foldr_nil, List.reverse_nil, List.append_nil, ← h, withTrace_of_trace_eq rfl]
  | cons call calls ih =>
    rw [List.foldr_cons, ih, escapeFrom_of_located (by rw [trace_withTrace]), trace_withTrace,
      withTrace_withTrace, List.reverse_cons, List.append_assoc]

/-- An error that is not located yet is located at the innermost call and records the others. -/
theorem foldr_escapeFrom_of_unlocated {error : CompilationError}
    (h : error.trace.location = none) (around : List Call) (call : Call) :
    (around ++ [call]).foldr escapeFrom error =
      error.withTrace
        ⟨some ⟨call.origin, call.span, ""⟩, error.trace.expansion ++ around.reverse⟩ := by
  rw [List.foldr_append, List.foldr_cons, List.foldr_nil, escapeFrom_of_unlocated h,
    foldr_escapeFrom_of_located (by rw [trace_withTrace]), withTrace_withTrace, trace_withTrace]

/-- Nothing but the trace of an error changes while it escapes from calls. -/
theorem exists_foldr_escapeFrom_eq (error : CompilationError) (calls : List Call) :
    ∃ trace, calls.foldr escapeFrom error = error.withTrace trace := by
  induction calls with
  | nil => exact ⟨error.trace, (withTrace_of_trace_eq rfl).symm⟩
  | cons call calls ih =>
    obtain ⟨trace, ih⟩ := ih
    rw [List.foldr_cons, ih]
    cases hlocation : trace.location with
    | some location =>
      rw [escapeFrom_of_located (by rw [trace_withTrace, hlocation]), withTrace_withTrace]
      exact ⟨_, rfl⟩
    | none =>
      rw [escapeFrom_of_unlocated (by rw [trace_withTrace, hlocation]), withTrace_withTrace]
      exact ⟨_, rfl⟩

end CompilationError

end Transclude
