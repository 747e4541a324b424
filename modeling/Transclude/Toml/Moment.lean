import Transclude.Calendar.Moment
import Transclude.Toml.Literal

/-!
# Dates and times in TOML

A date is written with hyphens, a time of day with colons down to the seconds and with a fraction
if wanted. Both together are separated by one letter or space, and may be followed by an offset
from universal time. Every number has a fixed count of digits; of a fraction, six digits count.

## Main definitions

* `Toml.moment?` — the date, the time of day, or both in front of a text
-/

namespace Transclude.Toml

/-- The number that exactly `count` digits in front write, if it lies in a range. -/
def fixedNumber? (count least greatest : Nat) (cs : List Char) : Option (Nat × List Char) :=
  let digits := cs.take count
  let n := natOf digits
  if digits.length = count && digits.all isAsciiDigit && least ≤ n && n ≤ greatest then
    some (n, cs.drop count)
  else none

/-- What follows a separator in front. -/
def behind? (separator : Char) (cs : List Char) : Option (List Char) :=
  match cs with
  | c :: rest => if c = separator then some rest else none
  | [] => none

/-- The date in front, which the calendar may lack. -/
def date? (cs : List Char) : Option (Date × List Char) := do
  let (year, rest) ← fixedNumber? 4 0 9999 cs
  let (month, rest) ← fixedNumber? 2 1 12 (← behind? '-' rest)
  let (day, rest) ← fixedNumber? 2 1 31 (← behind? '-' rest)
  return (⟨year, month, day⟩, rest)

/-- The microseconds of the fraction in front, if there is one. -/
def microseconds (cs : List Char) : Nat × List Char :=
  match cs with
  | '.' :: rest =>
    let digits := rest.takeWhile isAsciiDigit
    if digits = [] then (0, cs)
    else (natOf ((digits ++ List.replicate 6 '0').take 6), rest.drop digits.length)
  | _ => (0, cs)

/-- The time of day in front. -/
def time? (cs : List Char) : Option (TimeOfDay × List Char) := do
  let (hour, rest) ← fixedNumber? 2 0 23 cs
  let (minute, rest) ← fixedNumber? 2 0 59 (← behind? ':' rest)
  let (second, rest) ← fixedNumber? 2 0 59 (← behind? ':' rest)
  let (microsecond, rest) := microseconds rest
  return (⟨hour, minute, second, microsecond⟩, rest)

/-- The offset in minutes that hours and minutes in front write. -/
def offsetMinutes? (cs : List Char) : Option (Nat × List Char) := do
  let (hours, rest) ← fixedNumber? 2 0 23 cs
  let (minutes, rest) ← fixedNumber? 2 0 59 (← behind? ':' rest)
  return (60 * hours + minutes, rest)

/-- The offset in front, if there is one. -/
def offset (cs : List Char) : Option Int × List Char :=
  match cs with
  | 'Z' :: rest | 'z' :: rest => (some 0, rest)
  | '+' :: rest | '-' :: rest =>
    match offsetMinutes? rest with
    | some (minutes, rest) => (some (Numeral.signed (cs.head? = some '-') minutes), rest)
    | none => (none, cs)
  | _ => (none, cs)

/-- The time of day that belongs to a date in front of it. -/
def timeOfDate? (cs : List Char) : Option (TimeOfDay × List Char) :=
  match cs with
  | 'T' :: rest | 't' :: rest | ' ' :: rest => time? rest
  | _ => none

/-- The date, the time of day, or both in front; a date that the calendar lacks is malformed. -/
def moment? (cs : List Char) : Option (Except (Failure Fault) Moment × List Char) :=
  match date? cs with
  | none => (time? cs).map fun (t, rest) => (.ok (.time t), rest)
  | some (d, rest) =>
    let (moment, rest) :=
      match timeOfDate? rest with
      | none => (Moment.date d, rest)
      | some (t, rest) =>
        let (minutes, rest) := offset rest
        (Moment.both d t minutes, rest)
    some (if d.isValid then .ok moment else malformed, rest)

end Transclude.Toml
