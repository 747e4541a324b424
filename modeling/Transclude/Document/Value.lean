import Transclude.Path

/-!
# Arguments and signatures

A call carries values of three kinds: strings, paths and numbers. What a function accepts is told
by signatures, each of them the list of kinds that its arguments must have, in order.

## Main definitions

* `Value` and `Value.kind` — an argument and its kind
* `Descriptor` — a function's name with the signatures it declares
* `Descriptor.accepts` — whether one of the signatures fits the arguments
-/

namespace Transclude

/-- An argument of a call. -/
inductive Value
  | string (text : String)
  | path (path : Path)
  | number (value : Int)
  deriving DecidableEq

/-- The kinds that arguments come in. -/
inductive Kind
  | string
  | path
  | number
  deriving DecidableEq

/-- The kind of an argument. -/
def Value.kind : Value → Kind
  | .string _ => .string
  | .path _ => .path
  | .number _ => .number

/-- The kinds of the arguments that a call may carry. -/
abbrev Signature := List Kind

/-- A function that can be called: its name and the signatures it declares. -/
structure Descriptor where
  name : String
  signatures : List Signature
  deriving DecidableEq

/-- Whether one of the declared signatures fits the arguments. -/
def Descriptor.accepts (d : Descriptor) (arguments : List Value) : Bool :=
  d.signatures.contains (arguments.map Value.kind)

theorem Descriptor.accepts_iff {d : Descriptor} {arguments : List Value} :
    d.accepts arguments = true ↔ arguments.map Value.kind ∈ d.signatures := by
  simp [accepts]

end Transclude
