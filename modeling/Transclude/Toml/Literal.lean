import Transclude.Error.Abort
import Transclude.Settings.Setting

/-!
# Strings and numbers of TOML

Basic strings stand between double quotes and know escapes; literal strings stand between single
quotes and know none. Three quotes begin a string of several lines, which drops a line feed right
behind them and may end in up to two quotes of its own. A backslash at the end of a line of a basic
string drops the blanks and line feeds that follow. Control characters stand in no string.

Numbers may have single underscores between their digits. Whole numbers are decimal without
leading zeros, or hexadecimal, octal or binary; the others have a fraction, an exponent or both.

## Main definitions

* `Toml.Fault`, `Toml.Reader` — why a document is refused, and what reads a part of one
* `Toml.basicString`, `Toml.literalString` — strings
* `Toml.number?` — numbers
-/

namespace Transclude.Toml

/-- Why a document is refused. -/
inductive Fault
  /-- It is not written as the format asks for. -/
  | malformed
  /-- Its parts define something twice. -/
  | conflicting
  deriving DecidableEq

/-- How a fault is told. -/
def Fault.message : Fault → String
  | malformed => "the document is malformed"
  | conflicting => "the document defines something twice"

/-- Reads a part of a document, and leaves the rest. -/
abbrev Reader (α : Type) := List Char → Except (Failure Fault) (α × List Char)

/-- A part that is not written as the format asks for. -/
def malformed {α : Type} : Except (Failure Fault) α :=
  .error (.reported .malformed)

/-- Whether a character is a control character that no line may hold; the tab is none. -/
def isControl (c : Char) : Bool :=
  (c.toNat < 0x20 && c ≠ '\t') || c.toNat = 0x7F

/-- Whether a character separates words on a line. -/
def isSpace (c : Char) : Bool :=
  c = ' ' || c = '\t'

/-- Whether a character separates values in an array. -/
def isSpaceOrBreak (c : Char) : Bool :=
  isSpace c || c = '\n'

/-! ## Strings -/

/-- The value of a hexadecimal digit. -/
def hexValue? (c : Char) : Option Nat :=
  if '0' ≤ c && c ≤ '9' then some (c.toNat - '0'.toNat)
  else if 'a' ≤ c && c ≤ 'f' then some (c.toNat - 'a'.toNat + 10)
  else if 'A' ≤ c && c ≤ 'F' then some (c.toNat - 'A'.toNat + 10)
  else none

/-- The character whose code point is written by hexadecimal digits. -/
def escapedChar? (digits : List Char) : Option Char := do
  let values ← digits.mapM hexValue?
  let n := values.foldl (fun n digit => 16 * n + digit) 0
  if n.isValidChar then some (Char.ofNat n) else none

/-- The character that a one-letter escape stands for. -/
def shortEscape? : Char → Option Char
  | 'b' => some '\x08'
  | 't' => some '\t'
  | 'n' => some '\n'
  | 'f' => some '\x0c'
  | 'r' => some '\r'
  | '"' => some '"'
  | '\\' => some '\\'
  | _ => none

/-- What a backslash at the end of a line still drops. -/
inductive Trimming
  | nothing
  /-- The blanks before the line feed. -/
  | line
  /-- All blanks and line feeds. -/
  | lines
  deriving DecidableEq

/-- Reads a basic string behind its opening quotes. The characters `read`, last one first, belong
to it already. -/
def basicString (multiline : Bool) (trimming : Trimming) (read : List Char) : Reader (List Char)
  | [] => malformed
  | c :: rest =>
    if trimming = .lines && isSpaceOrBreak c then basicString multiline .lines read rest
    else if trimming = .line then
      if isSpace c then basicString multiline .line read rest
      else if c = '\n' then basicString multiline .lines read rest
      else malformed
    else if c = '"' then
      if multiline then
        match rest with
        -- Fewer than three quotes do not end a string of several lines.
        | '"' :: '"' :: rest => .ok (read.reverse, rest)
        | rest => basicString multiline .nothing ('"' :: read) rest
      else .ok (read.reverse, rest)
    else if c = '\\' then
      match rest with
      | 'u' :: d₁ :: d₂ :: d₃ :: d₄ :: rest =>
        match escapedChar? [d₁, d₂, d₃, d₄] with
        | some char => basicString multiline .nothing (char :: read) rest
        | none => malformed
      | 'U' :: d₁ :: d₂ :: d₃ :: d₄ :: d₅ :: d₆ :: d₇ :: d₈ :: rest =>
        match escapedChar? [d₁, d₂, d₃, d₄, d₅, d₆, d₇, d₈] with
        | some char => basicString multiline .nothing (char :: read) rest
        | none => malformed
      | e :: rest =>
        match shortEscape? e with
        | some char => basicString multiline .nothing (char :: read) rest
        | none =>
          if multiline && isSpace e then basicString multiline .line read rest
          else if multiline && e = '\n' then basicString multiline .lines read rest
          else malformed
      | [] => malformed
    else if isControl c && !(multiline && c = '\n') then malformed
    else basicString multiline .nothing (c :: read) rest

/-- Reads a literal string behind its opening quotes. The characters `read`, last one first,
belong to it already. -/
def literalString (multiline : Bool) (read : List Char) : Reader (List Char)
  | [] => malformed
  | c :: rest =>
    if c = '\'' then
      if multiline then
        match rest with
        | '\'' :: '\'' :: rest => .ok (read.reverse, rest)
        | rest => literalString multiline ('\'' :: read) rest
      else .ok (read.reverse, rest)
    else if isControl c && !(multiline && c = '\n') then malformed
    else literalString multiline (c :: read) rest

/-- The quotes behind the end of a string of several lines that belong to the string. -/
def trailingQuotes (quote : Char) (cs : List Char) : List Char × List Char :=
  let quotes := (cs.take 2).takeWhile (· = quote)
  (quotes, cs.drop quotes.length)

/-- A string that `body` reads, with the quotes that may stand behind the end of a string of
several lines; the line feed at its beginning is dropped. -/
def multilineString (quote : Char) (body : Reader (List Char)) : Reader (List Char) := fun cs => do
  let cs := match cs with
    | '\n' :: rest => rest
    | cs => cs
  let (content, rest) ← body cs
  let (quotes, rest) := trailingQuotes quote rest
  return (content ++ quotes, rest)

/-! ## Numbers -/

/-- The digits in front, and what follows them. Single underscores between digits are dropped. -/
def digitRun (isDigit : Char → Bool) : List Char → List Char × List Char
  | [] => ([], [])
  | c :: rest =>
    if isDigit c then
      let (digits, rest) := digitRun isDigit rest
      (c :: digits, rest)
    else
      match c, rest with
      | '_', d :: rest =>
        if isDigit d then
          let (digits, rest) := digitRun isDigit rest
          (d :: digits, rest)
        else ([], '_' :: d :: rest)
      | c, rest => ([], c :: rest)

/-- A run of digits that begins with a digit. -/
def digits? (isDigit : Char → Bool) (cs : List Char) : Option (List Char × List Char) :=
  match cs with
  | c :: _ => if isDigit c then some (digitRun isDigit cs) else none
  | [] => none

/-- Whether a character is a digit to the base `base`. -/
def isDigitOf (base : Nat) (c : Char) : Bool :=
  match hexValue? c with
  | some n => n < base
  | none => false

/-- The base that a letter behind a zero announces. -/
def baseOf? : Char → Option Nat
  | 'x' => some 16
  | 'o' => some 8
  | 'b' => some 2
  | _ => none

/-- A number to an announced base. -/
def basedNumber? : List Char → Option (Setting × List Char)
  | '0' :: letter :: rest => do
    let base ← baseOf? letter
    let (digits, rest) ← digits? (isDigitOf base) rest
    let n := (digits.filterMap hexValue?).foldl (fun n digit => base * n + digit) 0
    return (.integer n, rest)
  | _ => none

/-- The digits of the whole part of a decimal number: a zero, or digits that do not begin with
one. -/
def wholeDigits? : List Char → Option (List Char × List Char)
  | '0' :: rest => some (['0'], rest)
  | cs => digits? isAsciiDigit cs

/-- The digits behind a point; none if there is no point with a digit behind it. -/
def fractionDigits (cs : List Char) : List Char × List Char :=
  match cs with
  | '.' :: rest => (digits? isAsciiDigit rest).getD ([], cs)
  | _ => ([], cs)

/-- The sign and the digits of an exponent; none if there is no exponent. -/
def exponentDigits (cs : List Char) : (Bool × List Char) × List Char :=
  match cs with
  | c :: rest =>
    if c = 'e' || c = 'E' then
      let (negative, rest) := Numeral.splitSign rest
      match digits? isAsciiDigit rest with
      | some (digits, rest) => ((negative, digits), rest)
      | none => ((false, []), cs)
    else ((false, []), cs)
  | [] => ((false, []), cs)

/-- The number that digits write. -/
def natOf (digits : List Char) : Nat :=
  Numeral.value (digits.map Numeral.asciiDigitValue)

/-- A decimal number: whole, unless it has a fraction or an exponent. -/
def decimalNumber? (cs : List Char) : Option (Except (Failure Fault) Setting × List Char) := do
  let (negative, unsigned) := Numeral.splitSign cs
  let (whole, rest) ← wholeDigits? unsigned
  let (fraction, rest) := fractionDigits rest
  let ((exponentNegative, exponent), rest) := exponentDigits rest
  if fraction = [] && exponent = [] then
    if maxDigits < whole.length then
      return (.error (.aborted (.oversizedNumeral whole.length)), rest)
    else return (.ok (.integer (Numeral.signed negative (natOf whole))), rest)
  else
    let places := Numeral.signed exponentNegative (natOf exponent) - fraction.length
    let digits := (whole ++ fraction).map Numeral.asciiDigitValue
    return (.ok (.real (Real.signed negative (Real.ofDecimal digits places))), rest)

/-- Infinity, or the number that is none, with an optional sign. -/
def specialNumber? (cs : List Char) : Option (Setting × List Char) :=
  let (negative, rest) := Numeral.splitSign cs
  match rest with
  | 'i' :: 'n' :: 'f' :: rest => some (.real (Real.signed negative Real.infinity), rest)
  | 'n' :: 'a' :: 'n' :: rest => some (.real (Real.signed negative Real.undefined), rest)
  | _ => none

/-- Reads a number. -/
def number : Reader Setting := fun cs =>
  match basedNumber? cs, decimalNumber? cs, specialNumber? cs with
  | some (value, rest), _, _ => .ok (value, rest)
  | none, some (value, rest), _ => value.map (·, rest)
  | none, none, some (value, rest) => .ok (value, rest)
  | none, none, none => malformed

end Transclude.Toml
