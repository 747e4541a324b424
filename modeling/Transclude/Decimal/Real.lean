import Transclude.Decimal.Shortest
import Transclude.Text.Numeral

/-!
# Real numbers as text

Floating-point numbers are written by their shortest decimal. A layout says between which
magnitudes the point stands among the digits, and how wide an exponent is written outside of them.
A whole number written without an exponent ends in a point and a zero.

Numbers are read in lenient form, like whole numbers: blanks may surround them, digits may be those
of any script, and single underscores may stand between digits.

## Main definitions

* `RealLayout` — the decisions of a format
* `RealLayout.text` — the text of a number
* `Real.ofDecimal` — the number nearest to a decimal
* `Real.parse?` — the number that a text spells
-/

namespace Transclude

/-- How a format writes real numbers. -/
structure RealLayout where
  /-- From this magnitude on the point stands among the digits; `0.1` has magnitude zero. -/
  leastMagnitude : Int
  /-- Up to this magnitude the point stands among the digits. -/
  greatestMagnitude : Int
  /-- An exponent has at least this many digits. -/
  exponentWidth : Nat
  infinity : String
  undefined : String
  deriving DecidableEq

/-- A decimal number: its significant digits, and how many places the point stands behind the
first of them. -/
structure Significand where
  digits : List Char
  magnitude : Int

/-- The digits of a decimal without zeros at the end. -/
def Decimal.significand (d : Decimal) : Significand :=
  let digits := Nat.toDigits 10 d.digits
  ⟨(digits.reverse.dropWhile (· = '0')).reverse, digits.length + d.exponent⟩

namespace RealLayout

/-- Digits with the point among them. -/
def positional (s : Significand) : List Char :=
  if s.magnitude ≤ 0 then
    ['0', '.'] ++ List.replicate (-s.magnitude).toNat '0' ++ s.digits
  else
    let places := s.magnitude.toNat
    if s.digits.length ≤ places then
      s.digits ++ List.replicate (places - s.digits.length) '0' ++ ['.', '0']
    else s.digits.take places ++ ['.'] ++ s.digits.drop places

/-- Digits with an exponent behind them. -/
def exponential (l : RealLayout) (s : Significand) : List Char :=
  let exponent := s.magnitude - 1
  let digits := Nat.toDigits 10 exponent.natAbs
  let padding := List.replicate (l.exponentWidth - digits.length) '0'
  let fraction := if s.digits.length ≤ 1 then [] else '.' :: s.digits.drop 1
  s.digits.take 1 ++ fraction ++ ['e', if exponent < 0 then '-' else '+'] ++ padding ++ digits

/-- The text of a positive decimal. -/
def decimalText (l : RealLayout) (d : Decimal) : List Char :=
  let s := d.significand
  if l.leastMagnitude ≤ s.magnitude && s.magnitude ≤ l.greatestMagnitude then positional s
  else l.exponential s

/-- The text of a number. -/
def text (l : RealLayout) (x : Float) : String :=
  let bits := x.toBits.toNat
  let fraction : Nat := bits % (1 <<< 52)
  let exponent : Nat := (bits >>> 52) % (1 <<< 11)
  let sign := if bits >>> 63 = 1 then "-" else ""
  if exponent = 0x7FF then
    if fraction = 0 then sign ++ l.infinity else l.undefined
  else if exponent = 0 && fraction = 0 then sign ++ "0.0"
  else
    let number : BinaryNumber :=
      if exponent = 0 then ⟨fraction, -1074, false⟩
      else ⟨(1 <<< 52) + fraction, (exponent : Int) - 1075, fraction = 0 && 1 < exponent⟩
    sign ++ String.ofList (l.decimalText number.shortest)

end RealLayout

namespace Real

/-- The infinite number. -/
def infinity : Float := Float.ofBits 0x7FF0000000000000

/-- The number that is no number. -/
def undefined : Float := Float.ofBits 0x7FF8000000000000

/-- The number with its sign changed if asked for. -/
def signed (negative : Bool) (x : Float) : Float :=
  if negative then -x else x

/-- The number nearest to a decimal whose digits are given. What is too great is infinite, and what
is too small is zero. -/
def ofDecimal (digits : List Nat) (exponent : Int) : Float :=
  let significant := digits.dropWhile (· = 0)
  let magnitude : Int := significant.length + exponent
  if significant = [] then 0.0
  else if 310 < magnitude then infinity
  else if magnitude < -330 then 0.0
  else Float.ofScientific (Numeral.value significant) (exponent < 0) exponent.natAbs

/-- The number that digits with an optional fraction and an optional exponent spell. -/
def parseDecimal? (cs : List Char) : Option Float :=
  let whole := cs.takeWhile isAsciiDigit
  let rest := cs.dropWhile isAsciiDigit
  let (fraction, rest) :=
    match rest with
    | '.' :: rest => (rest.takeWhile isAsciiDigit, rest.dropWhile isAsciiDigit)
    | _ => ([], rest)
  let digits := (whole ++ fraction).map Numeral.asciiDigitValue
  let places : Int := fraction.length
  if digits = [] then none
  else
    match rest with
    | [] => some (ofDecimal digits (-places))
    | c :: rest =>
      if c = 'e' || c = 'E' then
        (Numeral.strict? rest).map fun (negative, exponent) =>
          ofDecimal digits (Numeral.signed negative (Numeral.value exponent) - places)
      else none

/-- The ASCII digit of the same value as a digit of any script; other characters stay. -/
def asciiDigit (c : Char) : Char :=
  match digitValue? c with
  | some n => Char.ofNat ('0'.toNat + n)
  | none => c

/-- The characters without underscores, which have to stand between digits; `before` stands in front
of the characters. -/
def dropUnderscores? (before : Char) : List Char → Option (List Char)
  | [] => if before = '_' then none else some []
  | c :: rest =>
    if c = '_' then if isAsciiDigit before then dropUnderscores? c rest else none
    else if before = '_' && !isAsciiDigit c then none
    else (c :: ·) <$> dropUnderscores? c rest

/-- The number of which the sign has been taken off: a decimal, or a word for one that is none. -/
def parseUnsigned? (cs : List Char) : Option Float :=
  let word := String.ofList (cs.map Char.toLower)
  if word = "inf" || word = "infinity" then some infinity
  else if word = "nan" then some undefined
  else parseDecimal? cs

/-- The number that a text spells in lenient form. -/
def parse? (cs : List Char) : Option Float := do
  let cs ← dropUnderscores? ' ' ((stripWhere Numeral.isPadding cs).map asciiDigit)
  let (negative, rest) := Numeral.splitSign cs
  return signed negative (← parseUnsigned? rest)

end Real

end Transclude
