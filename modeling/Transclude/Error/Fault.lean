import Transclude.Path
import Transclude.Text.Quoted

/-!
# Faults of a compilation

A fault is the cause of a compilation error, without its place. Four faults concern the spelling of
a call, four arise while a call is dispatched or carried out, and one concerns the document that
was to be compiled. Functions may also report faults of their own, by a category and a message.

## Main definitions

* `SpellingFault` — what can be wrong with the spelling of a call
* `Fault` — the cause of a compilation error
* `Fault.category` — which part of the work a fault belongs to
* `Fault.message` — how a fault is told
-/

namespace Transclude

/-- What can be wrong with the spelling of a call. -/
inductive SpellingFault
  /-- A symbol that cannot stand in a function name; what is read one character at a time has
  symbols of one character. -/
  | invalidSymbol (symbol : String)
  /-- An argument of blanks only. -/
  | emptyArgument
  /-- A string or path without its closing delimiter. -/
  | unclosedLiteral (text : String)
  /-- A bare argument that is not a number in range. -/
  | invalidInteger (text : String)
  deriving DecidableEq

/-- How a fault in the spelling of a call is told. -/
def SpellingFault.message : SpellingFault → String
  | invalidSymbol symbol => s!"invalid symbol {quoted symbol} in function name"
  | emptyArgument => "empty argument"
  | unclosedLiteral text => s!"unclosed literal: {text}"
  | invalidInteger text => s!"invalid integer literal: {quoted text}"

/-- The part of the work that a fault belongs to. -/
inductive Category
  /-- No part in particular. -/
  | general
  /-- The spelling of calls. -/
  | spelling
  /-- Dispatching calls and carrying them out. -/
  | provider
  /-- Reading the document to compile. -/
  | source
  deriving DecidableEq

/-- The cause of a compilation error. -/
inductive Fault
  | spelling (fault : SpellingFault)
  /-- No provider exposes the function. -/
  | functionNotFound (name : String)
  /-- The arguments do not suit the function. -/
  | invalidArguments (reason : String)
  /-- Something outside the compilation failed a provider. -/
  | external (reason : String)
  /-- A call nested as deep as the limit allows. -/
  | depthExceeded (limit : Int)
  /-- The document to compile cannot be read. -/
  | unreadable (path : Path) (reason : String)
  /-- A fault that a provider describes by itself. -/
  | other (category : Category) (message : String)
  deriving DecidableEq

namespace Fault

/-- The part of the work that a fault belongs to. -/
def category : Fault → Category
  | spelling _ => .spelling
  | functionNotFound _ | invalidArguments _ | external _ | depthExceeded _ => .provider
  | unreadable _ _ => .source
  | other category _ => category

/-- How a fault is told. -/
def message : Fault → String
  | spelling fault => fault.message
  | functionNotFound name => s!"function `{name}` is not found"
  | invalidArguments reason => reason
  | external reason => s!"external error: {reason}"
  | depthExceeded limit => s!"expansion depth limit ({limit}) exceeded"
  | unreadable path reason => s!"cannot read {path.text}: {reason}"
  | other _ message => message

/-- The fault of arguments that are rejected without a reason. -/
def invalidArgumentsUnexplained : Fault :=
  invalidArguments "invalid arguments"

/-- The fault of arguments that fit no declared signature. -/
def noSignature (function : String) : Fault :=
  invalidArguments s!"no signature of `{function}` accepts these arguments"

end Fault

end Transclude
