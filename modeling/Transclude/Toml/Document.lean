import Transclude.Toml.Key
import Transclude.Toml.Moment

/-!
# TOML documents

A document is a sequence of lines. A line is blank, a comment, the header of a table or of an array
of tables, or a key with a value; only values may go over several lines. Values within values are
read to a limited depth; a document that goes deeper breaks off the run.

## Main definitions

* `Toml.key`, `Toml.value` — the keys and values of lines
* `Toml.Line` — what a line says
* `Toml.lines` — the lines of a document
* `Toml.parse` — the table that a document defines
-/

namespace Transclude.Toml

/-! ## Blanks and comments -/

/-- What follows the spaces and tabs in front. -/
def skipSpaces (cs : List Char) : List Char :=
  cs.dropWhile isSpace

/-- What follows the comment in front, if there is one: a number sign, and the line behind it. -/
def skipComment : List Char → Except (Failure Fault) (List Char)
  | '#' :: rest =>
    if (rest.takeWhile (· ≠ '\n')).any isControl then malformed
    else .ok (rest.dropWhile (· ≠ '\n'))
  | cs => .ok cs

/-- What follows the blanks, line feeds and comments in front. -/
def skipLayout : (fuel : Nat) → List Char → Except (Failure Fault) (List Char)
  | 0, cs => .ok cs
  | fuel + 1, cs =>
    match cs.dropWhile isSpaceOrBreak with
    | '#' :: rest => skipComment ('#' :: rest) >>= skipLayout fuel
    | cs => .ok cs

/-! ## Keys -/

/-- Whether a character can stand in a name without quotes. -/
def isBare (c : Char) : Bool :=
  c.isAlphanum || c = '-' || c = '_'

/-- Reads one name of a key. -/
def keyName : Reader String
  | '"' :: rest => do
    let (name, rest) ← basicString false .nothing [] rest
    return (String.ofList name, rest)
  | '\'' :: rest => do
    let (name, rest) ← literalString false [] rest
    return (String.ofList name, rest)
  | cs =>
    match cs.takeWhile isBare with
    | [] => malformed
    | name => .ok (String.ofList name, cs.dropWhile isBare)

/-- Reads the names of a key, which stand between points. -/
def keyNames : (fuel : Nat) → Reader Key
  | 0, _ => malformed
  | fuel + 1, cs => do
    let (name, rest) ← keyName cs
    match skipSpaces rest with
    | '.' :: rest => do
      let (names, rest) ← keyNames fuel (skipSpaces rest)
      return (name :: names, rest)
    | rest => return ([name], rest)

/-- Reads a key and the spaces behind it. -/
def key : Reader Key := fun cs =>
  keyNames (cs.length + 1) cs

/-- Reads a key and the equals sign behind it. -/
def keyAndSign : Reader Key := fun cs => do
  let (names, rest) ← key cs
  match rest with
  | '=' :: rest => return (names, skipSpaces rest)
  | _ => malformed

/-! ## Values -/

/-- Reads a string, of one line or of several. -/
def string : Reader (List Char)
  | '"' :: '"' :: '"' :: rest => multilineString '"' (basicString true .nothing []) rest
  | '"' :: rest => basicString false .nothing [] rest
  | '\'' :: '\'' :: '\'' :: rest => multilineString '\'' (literalString true []) rest
  | '\'' :: rest => literalString false [] rest
  | _ => malformed

/-- Reads a value that holds no others. -/
def scalar (cs : List Char) : Except (Failure Fault) (Setting × List Char) :=
  match cs with
  | '"' :: _ | '\'' :: _ => do
    let (content, rest) ← string cs
    return (.string (String.ofList content), rest)
  | 't' :: 'r' :: 'u' :: 'e' :: rest => .ok (.boolean true, rest)
  | 'f' :: 'a' :: 'l' :: 's' :: 'e' :: rest => .ok (.boolean false, rest)
  | _ =>
    match moment? cs with
    | some (moment, rest) => moment.map (.moment ·, rest)
    | none => number cs

/-- How much of the nesting an array takes up. -/
def arrayDepth : Nat := 2

/-- How much of the nesting a table on one line takes up. -/
def tableDepth : Nat := 3

/-- How much nesting there may be. -/
def nestingLimit : Nat := 985

mutual

/-- Reads a value that may nest `room` deep. The fuel bounds the number of steps. -/
def valueWithin (fuel room : Nat) : Reader Setting := fun cs =>
  match fuel with
  | 0 => malformed
  | fuel + 1 =>
    match cs with
    | '[' :: rest =>
      if room < arrayDepth then .error (.aborted .deepNesting)
      else do
        let (items, rest) ← arrayItems fuel (room - arrayDepth) rest
        return (.list items, rest)
    | '\x7b' :: rest =>
      if room < tableDepth then .error (.aborted .deepNesting)
      else
        match skipSpaces rest with
        | '\x7d' :: rest => .ok (.table [], rest)
        | rest => do
          let (t, rest) ← inlineEntries fuel (room - tableDepth) .empty rest
          return (.table t, rest)
    | _ => scalar cs

/-- Reads the items of an array and its closing bracket. -/
def arrayItems (fuel room : Nat) : Reader (List Setting) := fun cs =>
  match fuel with
  | 0 => malformed
  | fuel + 1 => do
    match ← skipLayout (cs.length + 1) cs with
    | ']' :: rest => return ([], rest)
    | cs =>
      let (item, rest) ← valueWithin fuel room cs
      match ← skipLayout (rest.length + 1) rest with
      | ']' :: rest => return ([item], rest)
      | ',' :: rest => do
        let (items, rest) ← arrayItems fuel room rest
        return (item :: items, rest)
      | _ => malformed

/-- Reads the entries of a table on one line, of which there is one at least, and its closing
brace. The table holds the entries before them already. -/
def inlineEntries (fuel room : Nat) (t : InlineTable) : Reader Table := fun cs =>
  match fuel with
  | 0 => malformed
  | fuel + 1 => do
    let (names, rest) ← keyAndSign cs
    let (value, rest) ← valueWithin fuel room rest
    match t.add names value with
    | none => .error (.reported .conflicting)
    | some t =>
      match skipSpaces rest with
      | '\x7d' :: rest => return (t.entries, rest)
      | ',' :: rest => inlineEntries fuel room t (skipSpaces rest)
      | _ => malformed

end

/-- Reads a value. No value takes more steps than twice its length. -/
def value : Reader Setting := fun cs =>
  valueWithin (2 * cs.length + 2) nestingLimit cs

/-! ## Lines -/

/-- What a line says. -/
inductive Line
  | tableHeader (key : Key)
  | arrayHeader (key : Key)
  | pair (key : Key) (value : Setting)

/-- Reads the header of a table, behind its bracket. -/
def tableHeader : Reader Line := fun cs => do
  let (names, rest) ← key (skipSpaces cs)
  match rest with
  | ']' :: rest => return (.tableHeader names, rest)
  | _ => malformed

/-- Reads the header of an array of tables, behind its brackets. -/
def arrayHeader : Reader Line := fun cs => do
  let (names, rest) ← key (skipSpaces cs)
  match rest with
  | ']' :: ']' :: rest => return (.arrayHeader names, rest)
  | _ => malformed

/-- Reads a key and its value. -/
def pair : Reader Line := fun cs => do
  let (names, rest) ← keyAndSign cs
  let (value, rest) ← value rest
  return (.pair names value, rest)

/-- Reads what a line says, if it says anything. -/
def line : Reader (Option Line) := fun cs =>
  let said (reader : Reader Line) (cs : List Char) : Except (Failure Fault) (Option Line × _) := do
    let (line, rest) ← reader cs
    return (some line, rest)
  match cs with
  | [] | '\n' :: _ | '#' :: _ => .ok (none, cs)
  | '[' :: '[' :: rest => said arrayHeader rest
  | '[' :: rest => said tableHeader rest
  | cs => said pair cs

/-- The document after one more line. -/
def Line.applyTo (b : Builder) : Line → Option Builder
  | tableHeader key => b.openTable key
  | arrayHeader key => b.openArray key
  | pair key value => b.add key value

/-- Reads the lines of a document of which the lines before are put together already. -/
def lines (fuel : Nat) (b : Builder) (cs : List Char) : Except (Failure Fault) Builder :=
  match fuel with
  | 0 => .ok b
  | fuel + 1 => do
    let (said, rest) ← line (skipSpaces cs)
    match said.elim (some b) (Line.applyTo b) with
    | none => .error (.reported .conflicting)
    | some b =>
      match ← skipComment (skipSpaces rest) with
      | [] => return b
      | '\n' :: rest => lines fuel b rest
      | _ => malformed

/-- A text whose lines end in line feeds alone. -/
def joinLineEnds : List Char → List Char
  | '\r' :: '\n' :: rest => '\n' :: joinLineEnds rest
  | c :: rest => c :: joinLineEnds rest
  | [] => []

/-- The table that a document defines. -/
def parse (source : String) : Except (Failure Fault) Table := do
  let cs := joinLineEnds source.toList
  return (← lines (cs.length + 1) .empty cs).root

end Transclude.Toml
