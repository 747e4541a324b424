/-!
# Dates and times of day

A moment is a date of the Gregorian calendar, a time of day, or both, and both together may stand at
an offset from universal time. Moments are written in two ways: as a text of digits, from the year
down to the fraction of a second, and as a list of their numbers that names what they are.

## Main definitions

* `Date`, `TimeOfDay`, `Moment` — a date, a time of day, and either or both
* `Date.isValid` — whether the calendar has a date
* `Moment.text` — a moment written with digits
* `Moment.innerText` — a moment written as a list of its numbers
-/

namespace Transclude

/-- A date. -/
structure Date where
  year : Nat
  month : Nat
  day : Nat
  deriving DecidableEq

/-- A time of day. -/
structure TimeOfDay where
  hour : Nat
  minute : Nat
  second : Nat
  microsecond : Nat
  deriving DecidableEq

/-- A date, a time of day, or both. -/
inductive Moment
  | date (date : Date)
  | time (time : TimeOfDay)
  /-- A date and a time of day, at an offset from universal time told in minutes if there is one. -/
  | both (date : Date) (time : TimeOfDay) (offset : Option Int)
  deriving DecidableEq

/-- A number with zeros in front, so that it has at least `width` digits. -/
def padded (width n : Nat) : String :=
  let digits := Nat.toDigits 10 n
  String.ofList (List.replicate (width - digits.length) '0' ++ digits)

/-- Names and numbers in parentheses. -/
def constructed (name : String) (parts : List String) : String :=
  name ++ "(" ++ ", ".intercalate parts ++ ")"

namespace Date

/-- Whether a year has a leap day. -/
def isLeap (year : Nat) : Bool :=
  year % 4 = 0 && (year % 100 ≠ 0 || year % 400 = 0)

/-- The number of days of a month. -/
def daysIn (year month : Nat) : Nat :=
  if month = 2 then if isLeap year then 29 else 28
  else if [4, 6, 9, 11].contains month then 30
  else 31

/-- Whether the calendar has a date. Its years have four digits and begin with the first one. -/
def isValid (d : Date) : Bool :=
  1 ≤ d.year && d.year ≤ 9999 && 1 ≤ d.month && d.month ≤ 12 && 1 ≤ d.day &&
    d.day ≤ daysIn d.year d.month

/-- A date written with digits. -/
def text (d : Date) : String :=
  "-".intercalate [padded 4 d.year, padded 2 d.month, padded 2 d.day]

/-- The numbers of a date. -/
def parts (d : Date) : List String :=
  [d.year, d.month, d.day].map toString

end Date

namespace TimeOfDay

/-- A time of day written with digits; a fraction of a second has six. -/
def text (t : TimeOfDay) : String :=
  let whole := ":".intercalate [padded 2 t.hour, padded 2 t.minute, padded 2 t.second]
  if t.microsecond = 0 then whole else whole ++ "." ++ padded 6 t.microsecond

/-- The numbers of a time of day; zeros behind the minutes are left out. -/
def parts (t : TimeOfDay) : List String :=
  let behind :=
    if t.microsecond ≠ 0 then [t.second, t.microsecond]
    else if t.second ≠ 0 then [t.second]
    else []
  ([t.hour, t.minute] ++ behind).map toString

end TimeOfDay

namespace Moment

/-- The minutes of a day. -/
def minutesOfDay : Int := 24 * 60

/-- An offset written with digits. -/
def offsetText (minutes : Int) : String :=
  let sign := if minutes < 0 then "-" else "+"
  sign ++ padded 2 (minutes.natAbs / 60) ++ ":" ++ padded 2 (minutes.natAbs % 60)

/-- The length of an offset as days and seconds, of which only the days may be negative. -/
def durationText (minutes : Int) : String :=
  let days := minutes.fdiv minutesOfDay
  let seconds := minutes.fmod minutesOfDay * 60
  let dayPart := if days = 0 then [] else [s!"days={days}"]
  let secondPart := if seconds = 0 then [] else [s!"seconds={seconds}"]
  constructed "datetime.timedelta" (dayPart ++ secondPart)

/-- An offset written as a zone. -/
def zoneText (minutes : Int) : String :=
  if minutes = 0 then "datetime.timezone.utc"
  else constructed "datetime.timezone" [durationText minutes]

/-- A moment written with digits. -/
def text : Moment → String
  | date d => d.text
  | time t => t.text
  | both d t offset => d.text ++ " " ++ t.text ++ (offset.map offsetText).getD ""

/-- A moment written as a list of its numbers. -/
def innerText : Moment → String
  | date d => constructed "datetime.date" d.parts
  | time t => constructed "datetime.time" t.parts
  | both d t offset =>
    let zone := (offset.map fun minutes => "tzinfo=" ++ zoneText minutes).toList
    constructed "datetime.datetime" (d.parts ++ t.parts ++ zone)

end Moment

end Transclude
