import Transclude.Text.Printable

/-!
# Quoted text

A text is shown between quotes so that its ends and its invisible characters can be seen. The
quotes are single unless the text holds a single quote and no double one. Inside, the quote and
the backslash are escaped by a backslash; tab, line feed and carriage return have short escapes;
every other character that is not printable is written by its code point in two, four or eight
hexadecimal digits, the fewest that suffice.

## Main definitions

* `Quoted.quoteOf` — the quote that a text is put in
* `Quoted.escape` — how one character is written inside quotes
* `quoted` — a text in quotes
-/

namespace Transclude

namespace Quoted

/-- The quote that surrounds a text. -/
def quoteOf (cs : List Char) : Char :=
  if cs.contains '\'' && !cs.contains '"' then '"' else '\''

/-- The hexadecimal digit of value `n`. -/
def hexDigit (n : Nat) : Char :=
  Char.ofNat (if n < 10 then 0x30 + n else 0x57 + n)

/-- The last `width` hexadecimal digits of `n`. -/
def hexDigits : (width : Nat) → (n : Nat) → List Char
  | 0, _ => []
  | width + 1, n => hexDigits width (n / 16) ++ [hexDigit (n % 16)]

/-- How one character is written between quotes `quote`. -/
def escape (quote c : Char) : List Char :=
  if c = quote || c = '\\' then ['\\', c]
  else if c = '\t' then ['\\', 't']
  else if c = '\n' then ['\\', 'n']
  else if c = '\r' then ['\\', 'r']
  else if isPrintable c then [c]
  else if c.toNat < 0x100 then '\\' :: 'x' :: hexDigits 2 c.toNat
  else if c.toNat < 0x10000 then '\\' :: 'u' :: hexDigits 4 c.toNat
  else '\\' :: 'U' :: hexDigits 8 c.toNat

/-- The characters of a text in quotes. -/
def encode (cs : List Char) : List Char :=
  let quote := quoteOf cs
  quote :: cs.flatMap (escape quote) ++ [quote]

end Quoted

/-- A text in quotes. -/
def quoted (s : String) : String :=
  String.ofList (Quoted.encode s.toList)

end Transclude
