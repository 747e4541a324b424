import Transclude.Calendar.Moment
import Transclude.Decimal.Real
import Transclude.Error.Abort
import Transclude.Text.Quoted

/-!
# Settings

A configuration is a table of settings. A setting is a value of one of a few kinds, or a list or a
table of settings; the setting that nobody gave is missing. Settings are shown to the user in
messages: a string by itself as it is, and a string inside of a list or a table in quotes; a moment
by itself with digits, and inside of another setting as a list of its numbers. Settings with too
long a number in them, or nested too deeply, cannot be shown.

## Main definitions

* `Setting` — a value of a configuration
* `Table` — settings under their names, in the order in which they were given
* `Setting.text` — how a setting is shown
* `Setting.obstacle?` — what keeps a setting from being shown
-/

namespace Transclude

/-- A value of a configuration. -/
inductive Setting
  | missing
  | boolean (value : Bool)
  | integer (value : Int)
  | real (value : Float)
  | string (value : String)
  | moment (value : Moment)
  | list (items : List Setting)
  | table (entries : List (String × Setting))

/-- Settings under their names, in the order in which they were given. -/
abbrev Table := List (String × Setting)

namespace Setting

/-- A real number is shown with the point among the digits from four places below one up to
sixteen places above, and with an exponent of two or more digits otherwise. -/
def realLayout : RealLayout := ⟨-3, 16, 2, "inf", "nan"⟩

mutual

/-- How a setting is shown inside of another one. -/
def innerText : Setting → String
  | missing => "None"
  | boolean b => if b then "True" else "False"
  | integer n => toString n
  | real x => realLayout.text x
  | string s => quoted s
  | moment m => m.innerText
  | list items => "[" ++ ", ".intercalate (innerTexts items) ++ "]"
  | table entries => "\x7b" ++ ", ".intercalate (entryTexts entries) ++ "\x7d"

/-- How the items of a list are shown. -/
def innerTexts : List Setting → List String
  | [] => []
  | item :: rest => innerText item :: innerTexts rest

/-- How the entries of a table are shown. -/
def entryTexts : List (String × Setting) → List String
  | [] => []
  | (name, item) :: rest => (quoted name ++ ": " ++ innerText item) :: entryTexts rest

end

/-- How a setting is shown. -/
def text : Setting → String
  | string s => s
  | moment m => m.text
  | other => other.innerText

mutual

/-- What keeps a setting from being shown if no more than `room` settings may stand one within the
other: the first number in it with too many digits, or the first setting for which no room is
left. -/
def obstacleWithin? : (room : Nat) → Setting → Option Abort
  | 0, _ => some .deepNesting
  | _ + 1, integer n => if Numeral.isWritable n then none else some .unwritableNumber
  | room + 1, list items => obstacleAmong? room items
  | room + 1, table entries => obstacleAmongEntries? room entries
  | _ + 1, _ => none

/-- What keeps the items of a list from being shown. -/
def obstacleAmong? (room : Nat) : List Setting → Option Abort
  | [] => none
  | item :: rest => obstacleWithin? room item <|> obstacleAmong? room rest

/-- What keeps the entries of a table from being shown. -/
def obstacleAmongEntries? (room : Nat) : List (String × Setting) → Option Abort
  | [] => none
  | (_, item) :: rest => obstacleWithin? room item <|> obstacleAmongEntries? room rest

end

/-- This many settings may stand one within the other if they are to be shown. -/
def maxShownNesting : Nat := 990

/-- What keeps a setting from being shown, if anything does. -/
def obstacle? (setting : Setting) : Option Abort :=
  setting.obstacleWithin? maxShownNesting

/-- The entries of a setting that is a table. -/
def table? : Setting → Option Table
  | table entries => some entries
  | _ => none

/-- The text of a setting that is a string. -/
def string? : Setting → Option String
  | string s => some s
  | _ => none

/-- The value of a setting that is a boolean. -/
def boolean? : Setting → Option Bool
  | boolean b => some b
  | _ => none

end Setting

end Transclude
