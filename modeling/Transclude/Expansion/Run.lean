import Transclude.Error.Abort
import Transclude.Error.Basic

/-!
# Runs with a record

An expansion leaves a record of what it did, whether it succeeds or not. A run is such a record
together with the result; runs are put one after the other like computations that may fail.

## Main definitions

* `Event` — a step worth recording
* `Event.logLine` — how a step is logged
* `Run` — a record and a result

## Main results

* `Run.events_isPrefix_bind` — a later run only adds to the record
-/

namespace Transclude

/-- A step of an expansion. -/
inductive Event
  /-- A call of a function was given to the provider of that name. -/
  | dispatched (function provider : String)
  /-- The provider registered at that index was asked to carry out a call that stands there. -/
  | expanding (index : Nat) (call : Call) (start : Position)
  /-- A file was asked for. -/
  | including (path : Path)
  deriving DecidableEq

/-- How a step is logged. -/
def Event.logLine : Event → String
  | dispatched function provider =>
    s!"DEBUG mdpp.providers: Dispatching {function} to {provider}\n"
  | expanding _ call start =>
    s!"DEBUG mdpp.eval: Expanding {call.function} at " ++
      s!"{call.origin.text}:{start.line}:{start.column}\n"
  | including path => s!"DEBUG mdpp.builtins: Including {path.text}\n"

/-- The record of a computation, and its result. -/
structure Run (α : Type) where
  events : List Event
  result : Except (Failure CompilationError) α

namespace Run

variable {α β : Type}

/-- The run that does nothing and ends as told. -/
def ofResult (result : Except (Failure CompilationError) α) : Run α :=
  ⟨[], result⟩

/-- The run that fails at once. -/
def fail (failure : Failure CompilationError) : Run α :=
  ofResult (.error failure)

/-- The run that reports an error which has just arisen from a fault. -/
def failWith (fault : Fault) : Run α :=
  fail (.reported (.ofFault fault))

/-- The run that records one step. -/
def record (event : Event) : Run Unit :=
  ⟨[event], .ok ()⟩

/-- One run after another. -/
protected def bind (run : Run α) (next : α → Run β) : Run β :=
  match run.result with
  | .error failure => ⟨run.events, .error failure⟩
  | .ok value => ⟨run.events ++ (next value).events, (next value).result⟩

instance : Monad Run where
  pure value := ofResult (.ok value)
  bind := Run.bind

/-- The run with `f` done to the error it reports, if it does. -/
def mapError (f : CompilationError → CompilationError) (run : Run α) : Run α :=
  { run with result := run.result.mapError (·.map f) }

@[simp] theorem pure_eq (value : α) : (pure value : Run α) = ⟨[], .ok value⟩ := rfl

@[simp] theorem mk_ok_bind (events : List Event) (value : α) (next : α → Run β) :
    ((⟨events, .ok value⟩ : Run α) >>= next) =
      ⟨events ++ (next value).events, (next value).result⟩ := rfl

@[simp] theorem mk_error_bind (events : List Event) (failure : Failure CompilationError)
    (next : α → Run β) :
    ((⟨events, .error failure⟩ : Run α) >>= next) = ⟨events, .error failure⟩ := rfl

@[simp] theorem mapError_mk_ok (f : CompilationError → CompilationError) (events : List Event)
    (value : α) : (⟨events, .ok value⟩ : Run α).mapError f = ⟨events, .ok value⟩ := rfl

@[simp] theorem mapError_mk_error (f : CompilationError → CompilationError)
    (events : List Event) (failure : Failure CompilationError) :
    (⟨events, .error failure⟩ : Run α).mapError f = ⟨events, .error (failure.map f)⟩ := rfl

theorem eq_mk_of_result {run : Run α} {result : Except (Failure CompilationError) α}
    (h : run.result = result) : run = ⟨run.events, result⟩ := by
  rw [← h]

theorem events_isPrefix_bind (run : Run α) (next : α → Run β) :
    run.events <+: (run >>= next).events := by
  obtain ⟨events, failure | value⟩ := run
  · exact List.prefix_rfl
  · exact List.prefix_append ..

end Run

end Transclude
