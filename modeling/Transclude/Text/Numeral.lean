import Transclude.Text.Blank
import Transclude.Text.Digit

/-!
# Numerals

Whole numbers are read from decimal digits with an optional sign. The strict form is made of ASCII
digits alone. The lenient form, meant for settings that people type, may be surrounded by blanks,
takes the digits of any script, and allows single underscores between digits; the information
separators, although blanks, are not allowed around it.

## Main definitions

* `Numeral.value` — the number that decimal digits write
* `Numeral.splitSign` — a sign, and what follows it
* `Numeral.strict?` — the sign and the digits of a numeral in strict form
* `Numeral.lenient?` — the sign and the digit values of a numeral in lenient form
* `Numeral.isWritable` — whether a number has few enough digits to be written
-/

namespace Transclude.Numeral

/-- The number whose decimal digits have the given values, the highest one first. -/
def value (digits : List Nat) : Nat :=
  digits.foldl (fun n digit => 10 * n + digit) 0

/-- The value of an ASCII digit. -/
def asciiDigitValue (c : Char) : Nat :=
  c.toNat - '0'.toNat

/-- The number `n` with a sign. -/
def signed (negative : Bool) (n : Nat) : Int :=
  if negative then -n else n

/-- Whether a minus sign stands in front, and what follows the sign if there is one. -/
def splitSign : List Char → Bool × List Char
  | '-' :: rest => (true, rest)
  | '+' :: rest => (false, rest)
  | cs => (false, cs)

/-- The sign and the digit values of a numeral in strict form. -/
def strict? (cs : List Char) : Option (Bool × List Nat) :=
  let (negative, digits) := splitSign cs
  if digits ≠ [] && digits.all isAsciiDigit then some (negative, digits.map asciiDigitValue)
  else none

/-- The digit values of digits with single underscores between them. -/
def spacedDigits? : List Char → Option (List Nat)
  | [] => none
  | [c] => (digitValue? c).map ([·])
  | c :: '_' :: rest => do return (← digitValue? c) :: (← spacedDigits? rest)
  | c :: rest => do return (← digitValue? c) :: (← spacedDigits? rest)

/-- Whether a character may surround a numeral in lenient form. -/
def isPadding (c : Char) : Bool :=
  isBlank c && !(0x1C ≤ c.toNat && c.toNat ≤ 0x1F)

/-- The sign and the digit values of a numeral in lenient form. -/
def lenient? (cs : List Char) : Option (Bool × List Nat) :=
  let (negative, digits) := splitSign (stripWhere isPadding cs)
  (spacedDigits? digits).map (negative, ·)

/-- Whether a number has few enough digits to be written. -/
def isWritable (n : Int) : Bool :=
  n.natAbs < Nat.pow 10 maxDigits

end Transclude.Numeral
