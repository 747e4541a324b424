import Transclude.Document.Basic
import Transclude.FileTree.Access
import Transclude.Text.Digit
import Transclude.Text.Utf8

/-!
# Ways a run breaks off

Besides the errors that a compilation reports there are conditions that no part of the program
answers for: they break off whatever is being done. A computation that can end in either way
returns a `Failure`.

## Main definitions

* `Abort` — the conditions that break off a run
* `Abort.message` — how such a condition is told
* `Failure` — an error that is reported, or a condition that breaks off the run
-/

namespace Transclude

/-- A coordinate of a place in an editor. -/
inductive Coordinate
  | line
  | character
  deriving DecidableEq

/-- The name of a coordinate. -/
def Coordinate.text : Coordinate → String
  | line => "line"
  | character => "character"

/-- A condition that breaks off a run. -/
inductive Abort
  /-- A numeral with more digits than are ever converted. -/
  | oversizedNumeral (digits : Nat)
  /-- A path that cannot be followed, opened or written. -/
  | inaccessible (path : Path) (fault : AccessFault)
  /-- A configuration that is not UTF-8. -/
  | undecodable (fault : Utf8.Fault)
  /-- Expansion that nests deeper than there is room for, as expansion without end does. -/
  | endless
  /-- Values within values, more deeply than can be followed. -/
  | deepNesting
  /-- A number with more digits than are ever written. -/
  | unwritableNumber
  /-- A node without a place, where the place is asked for. -/
  | unplacedNode
  /-- A call in a document that was to be rendered. -/
  | unexpandedCall (call : Call)
  /-- A place that an editor has no coordinate for. -/
  | outOfRange (coordinate : Coordinate) (value : Int)
  deriving DecidableEq

/-- The greatest coordinate of a place in an editor. -/
def maxCoordinate : Int := 2147483647

namespace Utf8

/-- What is wrong with bytes, in words. -/
def Reason.text : Reason → String
  | invalidStart => "invalid start byte"
  | invalidContinuation => "invalid continuation byte"
  | unexpectedEnd => "unexpected end of data"

/-- How a fault is told: one bad byte by its value and place, several by their places. -/
def Fault.message (fault : Fault) : String :=
  let last := fault.position + fault.count - 1
  let bytes :=
    if fault.count = 1 then
      s!"byte 0x{String.ofList (Quoted.hexDigits 2 fault.byte.toNat)} in position {fault.position}"
    else s!"bytes in position {fault.position}-{last}"
  s!"'utf-8' codec can't decode {bytes}: {fault.reason.text}"

end Utf8

/-- What is said of numbers with too many digits; `detail` tells more of the case. -/
def digitLimitText (detail : String) : String :=
  s!"Exceeds the limit ({maxDigits} digits) for integer string conversion{detail}; " ++
    "use sys.set_int_max_str_digits() to increase the limit"

/-- How a condition that breaks off a run is told. -/
def Abort.message : Abort → String
  | oversizedNumeral digits => digitLimitText s!": value has {digits} digits"
  | unwritableNumber => digitLimitText ""
  | unplacedNode => "'NoneType' object has no attribute 'start'"
  | inaccessible path fault => fault.message path
  | undecodable fault => fault.message
  -- In which words room is said to have run out is left open.
  | endless | deepNesting => ""
  | unexpandedCall call =>
    s!"unexpanded call {quoted call.function} from {call.origin.text} reached the renderer"
  | outOfRange coordinate value =>
    s!"Position.{coordinate.text} should be in range [0:{maxCoordinate}], but was {value}."

/-- The end of a computation that does not succeed. -/
inductive Failure (ε : Type)
  /-- An error that is reported to whoever asked for the work. -/
  | reported (error : ε)
  /-- A condition that nobody answers for. -/
  | aborted (abort : Abort)
  deriving DecidableEq

namespace Failure

/-- The failure with its error changed. -/
def map {ε ε' : Type} (f : ε → ε') : Failure ε → Failure ε'
  | reported error => reported (f error)
  | aborted abort => aborted abort

@[simp] theorem map_reported {ε ε' : Type} (f : ε → ε') (error : ε) :
    (reported error).map f = reported (f error) := rfl

@[simp] theorem map_aborted {ε ε' : Type} (f : ε → ε') (abort : Abort) :
    (aborted abort : Failure ε).map f = aborted abort := rfl

theorem map_map {ε ε' ε'' : Type} (f : ε → ε') (g : ε' → ε'') (failure : Failure ε) :
    (failure.map f).map g = failure.map (g ∘ f) := by
  cases failure <;> rfl

end Failure

end Transclude
