import Transclude.CommandLine.Arguments
import Transclude.FileTree.Basic
import Transclude.Settings.Depth
import Transclude.Toml.Document

/-!
# Options

What a run is to do is decided by defaults, by a configuration file, and by the command line, of
which each overrides the ones before. The configuration stands in the file that the command line
names, or else in `mdpp.toml` beside the input; without a file it is empty.

Three of its entries matter: `output.path`, `eval.max_depth` and `eval.strict_signatures`. An entry
of another type than the one that is wanted is as good as missing, save that a depth which is no
depth is always reported, even if the command line overrides it.

## Main definitions

* `Options` — what a run is to do
* `Options.merge` — the options that arguments and a configuration give
* `FileTree.configuration` — the configuration that arguments lead to
* `Options.resolve` — the options that a command line gives

## Main results

* `Options.mergeEntries_eq_ok_iff` — when there are options, and which
* `Options.one_le_of_mergeEntries` — a depth limit is positive
* `Options.merge_congr` — nothing but the three entries matters
-/

namespace Transclude

/-- What a run is to do. -/
structure Options where
  inputFile : Path
  outputFile : Path
  maxDepth : Option Nat
  strict : Bool
  watch : Bool
  debug : Bool
  verbose : Bool
  deriving DecidableEq

/-- Why a command line gives no options. -/
inductive OptionFault
  | depth (fault : Depth.Fault)
  | configuration (fault : Toml.Fault)
  deriving DecidableEq

/-- How it is told that a command line gives no options. -/
def OptionFault.message : OptionFault → String
  | depth fault => fault.message
  | configuration fault => s!"invalid config file: {fault.message}"

/-- The name of an output file that nobody chose. -/
def defaultOutputName : String := "dist.md"

/-- The name of a configuration file that nobody chose. -/
def configurationName : String := "mdpp.toml"

/-- The entry of a table inside of another table. -/
def Table.entryIn? (t : Table) (section_ name : String) : Option Setting := do
  let inner ← (← t.lookup section_).table?
  inner.lookup name

namespace Arguments

/-- The input document. -/
def inputFile (a : Arguments) : Path :=
  Path.parse a.input

/-- The directory of the input document. -/
def inputDirectory (a : Arguments) : Path :=
  a.inputFile.parent

/-- The path that an argument gives; an empty one gives none. -/
def pathOf (argument : Option String) : Option Path :=
  match argument with
  | some text => if text = "" then .none else some (Path.parse text)
  | .none => .none

/-- The file in which the configuration is looked for. -/
def configurationFile (a : Arguments) : Path :=
  (pathOf a.config).getD (a.inputDirectory.join (Path.parse configurationName))

/-- A path seen from the directory of the input. -/
def besideInput (a : Arguments) (text : String) : Path :=
  a.inputDirectory.join (Path.parse text)

end Arguments

namespace Options

/-- The output file that arguments and the configured path give. -/
def outputFileOf (a : Arguments) (configured : Option String) : Path :=
  (Arguments.pathOf a.output).getD (a.besideInput (configured.getD defaultOutputName))

/-- The depth limit that a setting or an argument gives, if there is one. -/
def optionalDepth (given : Option Setting) : Except (Failure Depth.Fault) (Option Nat) :=
  match given with
  | some setting => (Depth.ofSetting setting).map some
  | none => .ok none

/-- The setting that a switch gives; one without its value counts as an empty list. -/
def switchSetting : Option String → Setting
  | some value => .string value
  | none => .list []

/-- The options that arguments and the three entries of a configuration give. -/
def mergeEntries (a : Arguments) (outputPath maxDepth strict : Option Setting) :
    Except (Failure Depth.Fault) Options := do
  let configuredDepth ← optionalDepth maxDepth
  let givenDepth ← optionalDepth (a.maxDepth.map switchSetting)
  return {
    inputFile := a.inputFile
    outputFile := outputFileOf a (outputPath.bind Setting.string?)
    maxDepth := givenDepth <|> configuredDepth
    strict := a.strict || (strict.bind Setting.boolean?).getD false
    watch := a.watch
    debug := a.debug
    verbose := a.verbose }

/-- The options that arguments and a configuration give. -/
def merge (a : Arguments) (configuration : Table) : Except (Failure Depth.Fault) Options :=
  mergeEntries a (configuration.entryIn? "output" "path")
    (configuration.entryIn? "eval" "max_depth")
    (configuration.entryIn? "eval" "strict_signatures")

theorem one_le_of_optionalDepth {given : Option Setting} {depth : Nat}
    (h : optionalDepth given = .ok (some depth)) : 1 ≤ depth := by
  cases given with
  | none => cases h
  | some setting =>
    cases hs : Depth.ofSetting setting with
    | error fault => simp [optionalDepth, hs, Except.map] at h
    | ok n =>
      simp only [optionalDepth, hs, Except.map, Except.ok.injEq, Option.some.injEq] at h
      exact h ▸ Depth.one_le_of_ofSetting hs

/-- Options are given exactly if no depth is refused, and then each of them is decided by itself. -/
theorem mergeEntries_eq_ok_iff {a : Arguments} {outputPath maxDepth strict : Option Setting}
    {o : Options} : mergeEntries a outputPath maxDepth strict = .ok o ↔
      ∃ configuredDepth givenDepth, optionalDepth maxDepth = .ok configuredDepth ∧
        optionalDepth (a.maxDepth.map switchSetting) = .ok givenDepth ∧
        o = {
          inputFile := a.inputFile
          outputFile := outputFileOf a (outputPath.bind Setting.string?)
          maxDepth := givenDepth <|> configuredDepth
          strict := a.strict || (strict.bind Setting.boolean?).getD false
          watch := a.watch
          debug := a.debug
          verbose := a.verbose } := by
  unfold mergeEntries
  cases optionalDepth maxDepth with
  | error failure => simp [bind, Except.bind]
  | ok configured =>
    cases optionalDepth (a.maxDepth.map switchSetting) with
    | error failure => simp [bind, Except.bind]
    | ok given => simp [bind, Except.bind, pure, Except.pure, eq_comm]

theorem one_le_of_mergeEntries {a : Arguments} {outputPath maxDepth strict : Option Setting}
    {o : Options} {depth : Nat} (h : mergeEntries a outputPath maxDepth strict = .ok o)
    (hdepth : o.maxDepth = some depth) : 1 ≤ depth := by
  obtain ⟨configured, given, hconfigured, hgiven, rfl⟩ := mergeEntries_eq_ok_iff.mp h
  cases given with
  | none => exact one_le_of_optionalDepth (hconfigured.trans (congrArg _ hdepth))
  | some n =>
    obtain rfl : n = depth := Option.some.inj hdepth
    exact one_le_of_optionalDepth hgiven

theorem merge_congr {a : Arguments} {s t : Table}
    (hpath : s.entryIn? "output" "path" = t.entryIn? "output" "path")
    (hdepth : s.entryIn? "eval" "max_depth" = t.entryIn? "eval" "max_depth")
    (hstrict : s.entryIn? "eval" "strict_signatures" = t.entryIn? "eval" "strict_signatures") :
    merge a s = merge a t := by
  simp [merge, hpath, hdepth, hstrict]

end Options

/-- The table that the bytes of a configuration file define. -/
def decodeConfiguration (bytes : List UInt8) : Except (Failure OptionFault) Table :=
  match Utf8.decode bytes with
  | .error fault => .error (.aborted (.undecodable fault))
  | .ok text => (Toml.parse text).mapError (·.map .configuration)

/-- The configuration in the file at a path; where no file is, it is empty. -/
def FileTree.configuration (files : FileTree) (path : Path) :
    Except (Failure OptionFault) Table :=
  match files.isFile path with
  | .error fault => .error (.aborted (.inaccessible path fault))
  | .ok false => .ok []
  | .ok true =>
    match files.read path with
    | .error fault => .error (.aborted (.inaccessible path fault))
    | .ok bytes => decodeConfiguration bytes

/-- The options that a command line gives over a file tree. -/
def Options.resolve (a : Arguments) (files : FileTree) : Except (Failure OptionFault) Options :=
  match files.configuration a.configurationFile with
  | .error failure => .error failure
  | .ok configuration => (Options.merge a configuration).mapError (·.map .depth)

/-- What a configuration is merged with is the command line that leads to it. -/
theorem Options.exists_merge_of_resolve {a : Arguments} {files : FileTree} {o : Options}
    (h : resolve a files = .ok o) : ∃ configuration,
      files.configuration a.configurationFile = .ok configuration ∧
        merge a configuration = .ok o := by
  unfold resolve at h
  split at h
  · cases h
  rename_i configuration hconfiguration
  refine ⟨configuration, hconfiguration, ?_⟩
  cases hmerge : merge a configuration with
  | error failure =>
    rw [hmerge] at h
    cases h
  | ok merged =>
    rw [hmerge] at h
    exact congrArg Except.ok (Except.ok.inj h)

end Transclude
