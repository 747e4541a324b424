import Transclude.Text.Digit
import Transclude.Text.Quoted

/-!
# Command-line arguments

A command line is a list of words. A word that begins with a hyphen names a switch, by its short
name, by its long name, or by the beginning of one long name; all other words are values. So are a
lone hyphen, a negative number, and a word with a blank in it that names no switch. Behind the
word `--` all words are values.

A switch that needs a value takes the next word, or what is attached to it: behind an equals sign,
or directly behind its short name. What is attached to the short name of a switch that needs none
is read as further short names. If `--` is attached in the place of a value, it is dropped, and the
switch is given without one. The first value that no switch takes is the input.

## Main definitions

* `Switch`, `Arguments` — what can be asked for, and what was
* `Word.classify` — what a word is
* `Switch.attach` — what a word with something attached asks for
* `Arguments.parse` — what a command line asks for, or why it is left at once
-/

namespace Transclude

/-- The switches of the command line. -/
inductive Switch
  | help
  | output
  | config
  | maxDepth
  | strict
  | watch
  | debug
  | verbose
  deriving DecidableEq

namespace Switch

/-- The switches in the order in which they are told. -/
def all : List Switch :=
  [help, output, config, maxDepth, strict, watch, debug, verbose]

/-- The short name of a switch, without its hyphen. -/
def short? : Switch → Option Char
  | help => some 'h'
  | output => some 'o'
  | verbose => some 'v'
  | _ => none

/-- The long name of a switch. -/
def long : Switch → String
  | help => "--help"
  | output => "--output"
  | config => "--config"
  | maxDepth => "--max-depth"
  | strict => "--strict"
  | watch => "--watch"
  | debug => "--debug"
  | verbose => "--verbose"

/-- Whether a switch needs a value. -/
def needsValue : Switch → Bool
  | output | config | maxDepth => true
  | _ => false

/-- How a switch is told: all its names. -/
def title (s : Switch) : String :=
  match s.short? with
  | some c => s!"-{c}/{s.long}"
  | none => s.long

/-- The switch of a short name. -/
def ofShort? (c : Char) : Option Switch :=
  all.find? (·.short? = some c)

end Switch

/-- Why a command line makes no sense. -/
inductive UsageFault
  | missingInput
  | unrecognized (words : List String)
  | missingValue (switch : Switch)
  | superfluousValue (switch : Switch) (value : String)
  | ambiguous (word : String) (candidates : List Switch)
  deriving DecidableEq

/-- How it is told that a command line makes no sense. -/
def UsageFault.message : UsageFault → String
  | missingInput => "the following arguments are required: input"
  | unrecognized words => "unrecognized arguments: " ++ " ".intercalate words
  | missingValue switch => s!"argument {switch.title}: expected one argument"
  | superfluousValue switch value =>
    s!"argument {switch.title}: ignored explicit argument {quoted value}"
  | ambiguous word candidates =>
    s!"ambiguous option: {word} could match " ++ ", ".intercalate (candidates.map Switch.long)

/-- A word of a command line. -/
inductive Word
  | value (text : String)
  /-- A switch, whether its short name is used, and what is attached to the name. -/
  | switch (switch : Switch) (isShort : Bool) (attached : Option (List Char))
  /-- A word that looks like a switch and is none. -/
  | unknown (text : String)
  /-- The word behind which all words are values. -/
  | terminator
  deriving DecidableEq

namespace Word

/-- Whether characters are digits, of which there is one at least. -/
def areDigits (cs : List Char) : Bool :=
  cs ≠ [] && cs.all fun c => (digitValue? c).isSome

/-- Whether what follows a hyphen makes it a negative number: digits, or a point with digits
behind it and possibly before it. A line feed may stand at the end. -/
def isNumber (cs : List Char) : Bool :=
  let cs := if cs.getLast? = some '\n' then cs.dropLast else cs
  let whole := cs.takeWhile (· ≠ '.')
  match cs.dropWhile (· ≠ '.') with
  | [] => areDigits whole
  | _ :: fraction => (whole = [] || areDigits whole) && areDigits fraction

/-- The word that begins with two hyphens, which `rest` follows. -/
def classifyLong (text : String) (rest : List Char) : Except UsageFault Word :=
  let name := "--" ++ String.ofList (rest.takeWhile (· ≠ '='))
  let attached : Option (List Char) :=
    match rest.dropWhile (· ≠ '=') with
    | [] => none
    | _ :: attached => some attached
  -- A name in full wins over the names that it begins.
  match Switch.all.filter (·.long = name), Switch.all.filter (name.isPrefixOf ·.long) with
  | s :: _, _ => .ok (.switch s false attached)
  | [], [s] => .ok (.switch s false attached)
  | [], [] => .ok (if text.contains ' ' then .value text else .unknown text)
  | [], candidates => .error (.ambiguous text candidates)

/-- The word that begins with a single hyphen, which `c` and `rest` follow. -/
def classifyShort (text : String) (c : Char) (rest : List Char) : Word :=
  match Switch.ofShort? c, rest with
  | some s, [] => .switch s true none
  | some s, '=' :: attached => .switch s true (some attached)
  | some s, attached => .switch s true (some attached)
  | none, rest => if isNumber (c :: rest) || text.contains ' ' then .value text else .unknown text

/-- What a word is that does not stand behind a terminator. -/
def classify (text : String) : Except UsageFault Word :=
  match text.toList with
  | ['-', '-'] => .ok .terminator
  | '-' :: '-' :: rest => classifyLong text rest
  | '-' :: c :: rest => .ok (classifyShort text c rest)
  | _ => .ok (.value text)

/-- What the words of a command line are. -/
def classifyAll : List String → Except UsageFault (List Word)
  | [] => .ok []
  | text :: rest =>
    match classify text with
    | .error fault => .error fault
    | .ok .terminator => .ok (.terminator :: rest.map .value)
    | .ok word => (classifyAll rest).map (word :: ·)

end Word

/-- What a word with switches asks for. -/
structure Request where
  /-- The switches that are complete, with the values they are given. -/
  complete : List (Switch × Option String)
  /-- The switch that needs the next word. -/
  waiting : Option Switch
  deriving DecidableEq

namespace Request

/-- The request with another switch in front, which needs no value. -/
def cons (switch : Switch) (r : Request) : Request :=
  { r with complete := (switch, none) :: r.complete }

end Request

/-- The value that an attached text gives; a terminator gives none. -/
def attachedValue (text : List Char) : Option String :=
  if text = ['-', '-'] then none else some (String.ofList text)

namespace Switch

/-- What a switch with nothing attached asks for. -/
def alone (s : Switch) : Request :=
  if s.needsValue then ⟨[], some s⟩ else ⟨[(s, none)], none⟩

/-- What a switch with a text attached asks for. Where no value is needed, the text can only be
further short names behind a short one. -/
def attach (s : Switch) (isShort : Bool) (text : List Char) : Except UsageFault Request :=
  let superfluous := .error (.superfluousValue s (String.ofList text))
  if s.needsValue then .ok ⟨[(s, attachedValue text)], none⟩
  else
    match isShort, text with
    | true, c :: rest =>
      match ofShort? c, rest with
      | none, _ => superfluous
      | some next, [] => .ok (next.alone.cons s)
      | some next, rest => (next.attach true rest).map (·.cons s)
    | _, _ => superfluous

/-- What a switch asks for. -/
def request (s : Switch) (isShort : Bool) : Option (List Char) → Except UsageFault Request
  | none => .ok s.alone
  | some attached => s.attach isShort attached

end Switch

/-- What a command line asks for. -/
structure Arguments where
  input : String
  output : Option String
  config : Option String
  /-- The depth limit, if its switch is given, and the value that the switch is given. -/
  maxDepth : Option (Option String)
  strict : Bool
  watch : Bool
  debug : Bool
  verbose : Bool
  deriving DecidableEq

/-- Why a command line is left before anything is done. -/
inductive Departure
  /-- The help was asked for. -/
  | help
  | fault (fault : UsageFault)
  deriving DecidableEq

namespace Arguments

/-- The arguments before the first word. -/
def none : Arguments := ⟨"", .none, .none, .none, false, false, false, false⟩

/-- The arguments after one more switch. -/
def set (a : Arguments) (value : Option String) : Switch → Except Departure Arguments
  | .help => .error .help
  | .output => .ok { a with output := value }
  | .config => .ok { a with config := value }
  | .maxDepth => .ok { a with maxDepth := some value }
  | .strict => .ok { a with strict := true }
  | .watch => .ok { a with watch := true }
  | .debug => .ok { a with debug := true }
  | .verbose => .ok { a with verbose := true }

/-- The arguments after several switches. -/
def setAll (a : Arguments) (switches : List (Switch × Option String)) :
    Except Departure Arguments :=
  switches.foldlM (fun a (switch, value) => a.set value switch) a

/-- What was read of a command line: the arguments, the input, and the words that are left. -/
structure Progress where
  arguments : Arguments
  input : Option String
  extras : List String

namespace Progress

/-- One more word that is left. -/
def addExtra (p : Progress) (word : String) : Progress :=
  { p with extras := p.extras ++ [word] }

/-- A value that no switch takes. -/
def addValue (p : Progress) (value : String) : Progress :=
  match p.input with
  | .none => { p with input := some value }
  | some _ => p.addExtra value

end Progress

/-- Reads the words of a command line. A terminator right before or behind the input is dropped;
any other one is left. -/
def scan (p : Progress) : List Word → Except Departure Progress
  | [] => .ok p
  | .value text :: rest =>
    match p.input, rest with
    | .none, .terminator :: rest => scan (p.addValue text) rest
    | _, rest => scan (p.addValue text) rest
  | .unknown text :: rest => scan (p.addExtra text) rest
  | .terminator :: rest =>
    match p.input, rest with
    | .none, .value text :: rest => scan (p.addValue text) rest
    | _, rest => scan (p.addExtra "--") rest
  | .switch switch isShort attached :: rest =>
    match switch.request isShort attached with
    | .error fault => .error (.fault fault)
    | .ok request =>
      -- Only a value can be taken by a switch that waits, not a further switch.
      match request.waiting, rest with
      | .none, rest => do
        let arguments ← p.arguments.setAll request.complete
        scan { p with arguments } rest
      | some waiting, .value text :: rest => do
        let arguments ← p.arguments.setAll (request.complete ++ [(waiting, some text)])
        scan { p with arguments } rest
      | some waiting, _ => .error (.fault (.missingValue waiting))

/-- What a command line asks for, or why it is left at once. -/
def parse (words : List String) : Except Departure Arguments := do
  let words ← (Word.classifyAll words).mapError .fault
  let p ← scan ⟨none, .none, []⟩ words
  match p.input, p.extras with
  | .none, _ => .error (.fault .missingInput)
  | some input, [] => .ok { p.arguments with input }
  | some _, extras => .error (.fault (.unrecognized extras))

end Arguments

end Transclude
