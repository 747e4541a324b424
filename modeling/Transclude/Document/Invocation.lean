import Transclude.Document.Value
import Transclude.Error.Abort
import Transclude.Error.Fault
import Transclude.Text.Alphanumeric
import Transclude.Text.Numeral

/-!
# The spelling of calls

Between its braces a call is spelled as a function name, an opening parenthesis, arguments between
commas, and a closing parenthesis. Blanks in the name are ignored. A string stands between double
quotes and a path between number signs; inside either one all other characters are plain, the
other delimiter included. A bare argument is a number. What follows the closing parenthesis is
ignored; without one, only the arguments before the last comma count; without an opening one
there is neither name nor argument.

## Main definitions

* `Value.parse` — the argument that a piece between commas spells
* `Invocation.splitName` — a call's name, and what follows the opening parenthesis
* `ArgumentPieces.split` — the pieces between the commas of an argument list
* `Invocation.parse` — the function and the arguments that a call spells
-/

namespace Transclude

/-- The least number that an argument can be. -/
def minNumber : Int := -0x8000000000000000

/-- The greatest number that an argument can be. -/
def maxNumber : Int := 0x7FFFFFFFFFFFFFFF

namespace Value

/-- What a literal holds: the characters between the delimiter `quote` in front, which has been
taken off, and the same one at the end. -/
def literal? (quote : Char) (rest : List Char) : Option String :=
  if rest.getLast? = some quote then some (String.ofList rest.dropLast) else none

/-- The number that a bare argument spells. -/
def parseNumber (text : List Char) : Except (Failure SpellingFault) Value :=
  match Numeral.strict? text with
  | none => .error (.reported (.invalidInteger (String.ofList text)))
  | some (negative, digits) =>
    -- The digits are counted before their value is asked for, leading zeros included.
    if maxDigits < digits.length then .error (.aborted (.oversizedNumeral digits.length))
    else
      let n := Numeral.signed negative (Numeral.value digits)
      if minNumber ≤ n && n ≤ maxNumber then .ok (.number n)
      else .error (.reported (.invalidInteger (String.ofList text)))

/-- The argument that the characters of a piece spell. -/
def ofPiece (piece : List Char) : Except (Failure SpellingFault) Value :=
  let text := stripBlanks piece
  let unclosed : Except (Failure SpellingFault) Value :=
    .error (.reported (.unclosedLiteral (String.ofList text)))
  match text with
  | [] => .error (.reported .emptyArgument)
  | '"' :: rest => (literal? '"' rest).elim unclosed fun inner => .ok (.string inner)
  | '#' :: rest => (literal? '#' rest).elim unclosed fun inner => .ok (.path (Path.parse inner))
  | _ => parseNumber text

/-- The argument that a piece between commas spells. -/
def parse (piece : String) : Except (Failure SpellingFault) Value :=
  ofPiece piece.toList

end Value

/-- The pieces of an argument list: those that a comma ends, and the one that the closing
parenthesis ends, if there is one. -/
structure ArgumentPieces where
  beforeCommas : List (List Char)
  last : Option (List Char)
  deriving DecidableEq

namespace ArgumentPieces

/-- The pieces with one more in front. -/
def cons (piece : List Char) (p : ArgumentPieces) : ArgumentPieces :=
  { p with beforeCommas := piece :: p.beforeCommas }

/-- Whether a character opens a literal, and closes the one it has opened. -/
def isDelimiter (c : Char) : Bool :=
  c = '"' || c = '#'

/-- The pieces of an argument list. The characters `piece`, last one first, belong to its first
piece already, and `literal` is the delimiter of the literal that is open behind them. -/
def splitFrom (literal : Option Char) (piece : List Char) : List Char → ArgumentPieces
  | [] => ⟨[], none⟩
  | c :: rest =>
    match literal with
    -- Within a literal only its own delimiter means anything.
    | some delimiter => splitFrom (if c = delimiter then none else literal) (c :: piece) rest
    | none =>
      if isDelimiter c then splitFrom (some c) (c :: piece) rest
      else if c = ')' then ⟨[], some piece.reverse⟩
      else if c = ',' then (splitFrom none [] rest).cons piece.reverse
      else splitFrom none (c :: piece) rest

/-- The pieces of an argument list. -/
def split (cs : List Char) : ArgumentPieces :=
  splitFrom none [] cs

/-- The pieces that have to spell an argument: all of them, unless there is only an empty one
before the closing parenthesis. -/
def meant (p : ArgumentPieces) : List (List Char) :=
  if p = ⟨[], some []⟩ then [] else p.beforeCommas ++ p.last.toList

end ArgumentPieces

/-- What a call asks for: a function, and the arguments it is given. -/
structure Invocation where
  function : String
  arguments : List Value
  deriving DecidableEq

namespace Invocation

/-- The name of a function and what follows the opening parenthesis, if there is one. The
characters `name`, last one first, belong to the name already. -/
def splitNameFrom (name : List Char) :
    List Char → Except SpellingFault (Option (String × List Char))
  | [] => .ok none
  | c :: rest =>
    if isAlphanumeric c then splitNameFrom (c :: name) rest
    else if c = '(' then .ok (some (String.ofList name.reverse, rest))
    else if isBlank c then splitNameFrom name rest
    else .error (.invalidSymbol c.toString)

/-- The name of a function and what follows the opening parenthesis, if there is one. -/
def splitName (cs : List Char) : Except SpellingFault (Option (String × List Char)) :=
  splitNameFrom [] cs

/-- What the characters between the braces of a call spell. -/
def ofBody (body : List Char) : Except (Failure SpellingFault) Invocation :=
  match splitName body with
  | .error fault => .error (.reported fault)
  | .ok none => .ok ⟨"", []⟩
  | .ok (some (name, rest)) =>
    (ArgumentPieces.split rest).meant.mapM Value.ofPiece |>.map (⟨name, ·⟩)

/-- What the text between the braces of a call spells. -/
def parse (body : String) : Except (Failure SpellingFault) Invocation :=
  ofBody body.toList

end Invocation

end Transclude
