import Transclude.Proofs.CommandLine.Configuration
import Transclude.Proofs.Spelling.Lenient

/-!
# What decides an option

Every option is decided by the command line if it says anything, then by the configuration if what
stands there is of the wanted kind, and otherwise by a default. A depth that is given in either
place has to be one: a whole number of at least one, or a string that spells such a number. One that
is none is refused, also where the other place would have decided. Only if it stands in the
configuration and cannot even be shown, no fault tells of it, and the resolving is broken off.

## Main definitions

* `Setting.GivesDepth` — a setting is a depth, or spells one
* `Setting.IsRefused` — a setting is given that gives no depth
* `Options.DecidedBy` — options are what arguments and a configuration decide

## Main results

* `Depth.ofSetting_eq_ok_iff`, `Depth.ofSetting_eq_aborted_iff` — what becomes of a setting that is
  to give a depth
* `Options.decidedBy_of_mergeEntries` — options are decided by the places in their order
* `Options.merge_by_precedence` — when there are options, and what decides them
-/

namespace Transclude

/-- A setting is a depth, or spells one. -/
inductive Setting.GivesDepth : Setting → Nat → Prop
  | integer {depth : Nat} (hpos : 1 ≤ depth) : GivesDepth (.integer depth) depth
  | string {s : String} {depth : Nat} (hspells : Numeral.Spells s.toList depth)
      (hpos : 1 ≤ depth) : GivesDepth (.string s) depth

/-- A setting is given that gives no depth. -/
def Setting.IsRefused (given : Option Setting) : Prop :=
  ∃ setting, given = some setting ∧ ∀ depth, ¬ setting.GivesDepth depth

namespace Depth

variable {setting : Setting} {depth : Nat} {abort : Abort} {n : Int}

theorem ofInt_eq_ok_iff : ofInt n = .ok depth ↔ 1 ≤ depth ∧ n = depth := by
  unfold ofInt
  split
  · rw [Except.ok.injEq]
    omega
  · simp only [reject_ne_ok, false_iff]
    omega

/-- The depth of a setting is the one that the setting gives. -/
theorem ofSetting_eq_ok_iff : ofSetting setting = .ok depth ↔ setting.GivesDepth depth := by
  constructor
  · intro h
    unfold ofSetting at h
    split at h
    · obtain ⟨hpos, rfl⟩ := ofInt_eq_ok_iff.mp h
      exact .integer hpos
    · unfold ofString at h
      split at h
      · rename_i hn
        obtain ⟨hpos, rfl⟩ := ofInt_eq_ok_iff.mp h
        exact .string (parseInteger?_eq_some_iff.mp hn) hpos
      · exact absurd h (reject_ne_ok _ _)
    · exact absurd h (reject_ne_ok _ _)
  · rintro (hpos | ⟨hspells, hpos⟩)
    · exact ofInt_eq_ok_iff.mpr ⟨hpos, rfl⟩
    · rw [ofSetting, ofString, parseInteger?_eq_some_iff.mpr hspells]
      exact ofInt_eq_ok_iff.mpr ⟨hpos, rfl⟩

theorem obstacle?_string (s : String) : (Setting.string s).obstacle? = none := by
  rw [Setting.obstacle?, Setting.maxShownNesting, Setting.obstacleWithin?] <;> simp

/-- A setting that gives no depth is refused, and no other one. -/
theorem exists_ofSetting_eq_error_iff :
    (∃ failure, ofSetting setting = .error failure) ↔ ∀ depth, ¬ setting.GivesDepth depth := by
  simp only [← ofSetting_eq_ok_iff]
  cases ofSetting setting <;> simp

/-- A setting breaks off the run if it gives no depth and cannot be shown. -/
theorem ofSetting_eq_aborted_iff : ofSetting setting = .error (.aborted abort) ↔
    (∀ depth, ¬ setting.GivesDepth depth) ∧ setting.obstacle? = some abort := by
  rw [← exists_ofSetting_eq_error_iff, ← reject_eq_aborted_iff]
  cases setting with
  | string s =>
    -- A string can always be shown, and so can a number that it spells.
    simp [ofSetting, ofString_ne_aborted, reject_eq_aborted_iff, obstacle?_string]
  | integer n =>
    rw [ofSetting, ofInt]
    split
    · simp
    · exact ⟨fun h => ⟨⟨_, h⟩, h⟩, And.right⟩
  | _ => exact ⟨fun h => ⟨⟨_, h⟩, h⟩, And.right⟩

end Depth

namespace Options

/-- The options are what arguments and three entries of a configuration decide. -/
structure DecidedBy (a : Arguments) (outputPath maxDepth strict : Option Setting) (o : Options) :
    Prop where
  inputFile : o.inputFile = Path.parse a.input
  /-- The depth that a switch gives wins over the one that is configured. -/
  given_depth : ∀ value, a.maxDepth = some value →
    ∃ depth, (switchSetting value).GivesDepth depth ∧ o.maxDepth = some depth
  configured_depth : a.maxDepth = none → ∀ setting, maxDepth = some setting →
    ∃ depth, setting.GivesDepth depth ∧ o.maxDepth = some depth
  no_depth : a.maxDepth = none → maxDepth = none → o.maxDepth = none
  /-- A depth limit is positive. -/
  one_le : ∀ depth, o.maxDepth = some depth → 1 ≤ depth
  /-- A switch can ask for the check of signatures, but not ask for none. -/
  strict_iff : o.strict = true ↔ a.strict = true ∨ strict = some (.boolean true)
  given_output : ∀ text, a.output = some text → text ≠ "" → o.outputFile = Path.parse text
  configured_output : (∀ text, a.output = some text → text = "") →
    ∀ text, outputPath = some (.string text) →
      o.outputFile = (Path.parse a.input).parent.join (Path.parse text)
  default_output : (∀ text, a.output = some text → text = "") →
    (∀ text, outputPath ≠ some (.string text)) →
      o.outputFile = (Path.parse a.input).parent.join (Path.parse "dist.md")
  watch : o.watch = a.watch
  debug : o.debug = a.debug
  verbose : o.verbose = a.verbose

variable {a : Arguments} {configuration : Table} {o : Options} {given : Option Setting}
variable {setting : Setting} {depth : Nat} {abort : Abort}
variable {outputPath maxDepth strict : Option Setting}

theorem optionalDepth_some_eq_ok_iff {limit : Option Nat} :
    optionalDepth (some setting) = .ok limit ↔
      ∃ depth, setting.GivesDepth depth ∧ limit = some depth := by
  simp only [← Depth.ofSetting_eq_ok_iff]
  cases hdepth : Depth.ofSetting setting <;> simp [optionalDepth, hdepth, Except.map, eq_comm]

/-- What is given is refused exactly if there is something and it gives no depth. -/
theorem exists_optionalDepth_eq_error_iff :
    (∃ failure, optionalDepth given = .error failure) ↔ Setting.IsRefused given := by
  cases given with
  | none => simp [optionalDepth, Setting.IsRefused]
  | some setting =>
    have hsetting := @Depth.exists_ofSetting_eq_error_iff setting
    cases hdepth : Depth.ofSetting setting <;>
      simp_all [optionalDepth, Except.map, Setting.IsRefused]

/-- An output that is given wins over all others. -/
theorem outputFileOf_of_given {text : String} (hgiven : a.output = some text) (hne : text ≠ "")
    (configured : Option String) : outputFileOf a configured = Path.parse text := by
  simp [outputFileOf, hgiven, Arguments.pathOf, hne]

/-- An output that is empty is as good as none. -/
theorem outputFileOf_of_not_given (hnone : ∀ text, a.output = some text → text = "")
    (configured : Option String) :
    outputFileOf a configured = a.besideInput (configured.getD defaultOutputName) := by
  have hpath : Arguments.pathOf a.output = none := by
    unfold Arguments.pathOf
    split
    · rename_i text houtput
      rw [if_pos (hnone text houtput)]
    · rfl
  rw [outputFileOf, hpath, Option.getD_none]

theorem string?_eq_some_iff {text : String} :
    setting.string? = some text ↔ setting = .string text := by
  cases setting <;> simp [Setting.string?]

theorem boolean?_eq_some_iff {b : Bool} : setting.boolean? = some b ↔ setting = .boolean b := by
  cases setting <;> simp [Setting.boolean?]

/-- Options are decided by the places in their order. -/
theorem decidedBy_of_mergeEntries (h : mergeEntries a outputPath maxDepth strict = .ok o) :
    o.DecidedBy a outputPath maxDepth strict := by
  obtain ⟨configured, given, hconfigured, hgiven, rfl⟩ := mergeEntries_eq_ok_iff.mp h
  exact {
    inputFile := rfl
    given_depth := by
      intro value hvalue
      rw [hvalue] at hgiven
      obtain ⟨depth, hdepth, rfl⟩ := optionalDepth_some_eq_ok_iff.mp hgiven
      exact ⟨depth, hdepth, rfl⟩
    configured_depth := by
      rintro hnone setting rfl
      rw [hnone] at hgiven
      cases hgiven
      obtain ⟨depth, hdepth, rfl⟩ := optionalDepth_some_eq_ok_iff.mp hconfigured
      exact ⟨depth, hdepth, rfl⟩
    no_depth := by
      rintro hnone rfl
      rw [hnone] at hgiven
      cases hgiven
      cases hconfigured
      rfl
    one_le := fun _ => one_le_of_mergeEntries h
    strict_iff := by
      have hconfigured : (strict.bind Setting.boolean?).getD false = true ↔
          strict = some (.boolean true) := by
        cases strict with
        | none => simp
        | some setting =>
          rw [Option.bind_some, Option.getD_eq_iff, boolean?_eq_some_iff]
          simp
      rw [Bool.or_eq_true, hconfigured]
    given_output := fun text houtput hne => outputFileOf_of_given houtput hne _
    configured_output := by
      rintro hnone text rfl
      exact outputFileOf_of_not_given hnone _
    default_output := by
      intro hnone hother
      have hpath : outputPath.bind Setting.string? = none := by
        rw [Option.bind_eq_none_iff]
        intro setting hsetting
        rw [Option.eq_none_iff_forall_ne_some]
        intro text htext
        exact hother text (hsetting.trans (congrArg some (string?_eq_some_iff.mp htext)))
      rw [hpath]
      exact outputFileOf_of_not_given hnone _
    watch := rfl
    debug := rfl
    verbose := rfl }

/-- There are no options exactly if a depth is refused. -/
theorem exists_mergeEntries_eq_error_iff :
    (∃ failure, mergeEntries a outputPath maxDepth strict = .error failure) ↔
      Setting.IsRefused maxDepth ∨ Setting.IsRefused (a.maxDepth.map switchSetting) := by
  rw [← exists_optionalDepth_eq_error_iff, ← exists_optionalDepth_eq_error_iff]
  unfold mergeEntries
  cases optionalDepth maxDepth <;> cases optionalDepth (a.maxDepth.map switchSetting) <;>
    simp [bind, Except.bind, pure, Except.pure]

/-- **Options are decided by the command line, then the configuration, then defaults.** There are
options exactly if neither place gives a depth that is none; and then each option is decided by the
first place that says something of the wanted kind. A depth that is none is refused in either place,
except that it breaks off the run if it is configured and cannot be shown. Nothing of a
configuration but three entries matters. -/
theorem merge_by_precedence (a : Arguments) (configuration : Table) :
    (∀ abort, merge a configuration = .error (.aborted abort) ↔
      ∃ setting, configuration.entryIn? "eval" "max_depth" = some setting ∧
        (∀ depth, ¬ setting.GivesDepth depth) ∧ setting.obstacle? = some abort) ∧
    ((∃ fault, merge a configuration = .error (.reported fault)) ↔
      (∀ abort, merge a configuration ≠ .error (.aborted abort)) ∧
        (Setting.IsRefused (configuration.entryIn? "eval" "max_depth") ∨
          Setting.IsRefused (a.maxDepth.map switchSetting))) ∧
    (¬ Setting.IsRefused (configuration.entryIn? "eval" "max_depth") →
      ¬ Setting.IsRefused (a.maxDepth.map switchSetting) →
      ∃ o, merge a configuration = .ok o ∧
        o.DecidedBy a (configuration.entryIn? "output" "path")
          (configuration.entryIn? "eval" "max_depth")
          (configuration.entryIn? "eval" "strict_signatures")) ∧
    (∀ other : Table,
      other.entryIn? "output" "path" = configuration.entryIn? "output" "path" →
      other.entryIn? "eval" "max_depth" = configuration.entryIn? "eval" "max_depth" →
      other.entryIn? "eval" "strict_signatures" =
        configuration.entryIn? "eval" "strict_signatures" →
      merge a other = merge a configuration) ∧
    ∀ files : FileTree, files.configuration a.configurationFile = .ok configuration →
      resolve a files = (merge a configuration).mapError (·.map .depth) := by
  have hrefused : (∃ failure, merge a configuration = .error failure) ↔
      Setting.IsRefused (configuration.entryIn? "eval" "max_depth") ∨
        Setting.IsRefused (a.maxDepth.map switchSetting) := exists_mergeEntries_eq_error_iff
  refine ⟨fun abort => ?_, ?_, ?_,
    fun other hpath hdepth hstrict => merge_congr hpath hdepth hstrict,
    fun files hfiles => by rw [resolve, hfiles]⟩
  · simp only [merge_eq_aborted_iff, Depth.ofSetting_eq_aborted_iff]
  · rw [← hrefused]
    constructor
    · rintro ⟨fault, hfault⟩
      exact ⟨fun abort habort => by simp [hfault] at habort, _, hfault⟩
    · rintro ⟨hanswered, failure, hfailure⟩
      cases failure with
      | reported fault => exact ⟨fault, hfailure⟩
      | aborted abort => exact absurd hfailure (hanswered abort)
  · intro hconfigured hgiven
    cases hmerge : merge a configuration with
    | error failure =>
      exact absurd (hrefused.mp ⟨failure, hmerge⟩) (by simp [hconfigured, hgiven])
    | ok o => exact ⟨o, rfl, decidedBy_of_mergeEntries hmerge⟩

/-- A depth as people type it, in digits of two scripts, and a path of the wrong kind. -/
def typedConfiguration : Table :=
  [("output", .table [("path", .integer 3)]),
    ("eval", .table [("strict_signatures", .boolean true), ("max_depth", .string " +1_\u0660\n")])]

/-- The depth is read, the check is asked for, and the path is as good as missing. -/
theorem merge_by_precedence_typed :
    ∃ o, merge { Arguments.none with input := "d/in.md" } typedConfiguration = .ok o ∧
      o.maxDepth = some 10 ∧ o.strict = true ∧ o.outputFile = Path.parse "d/dist.md" := by
  have hspells : Numeral.Spells " +1_\u0660\n".toList (10 : Nat) :=
    parseInteger?_eq_some_iff.mp (by decide +kernel)
  have hgives : (Setting.string " +1_\u0660\n").GivesDepth 10 := .string hspells (by decide)
  have hconfigured : ¬ Setting.IsRefused (typedConfiguration.entryIn? "eval" "max_depth") := by
    rintro ⟨setting, hsetting, hnone⟩
    obtain rfl := Option.some.inj hsetting
    exact hnone 10 hgives
  obtain ⟨-, -, hmerge, -⟩ :=
    merge_by_precedence { Arguments.none with input := "d/in.md" } typedConfiguration
  obtain ⟨o, ho, hdecided⟩ := hmerge hconfigured (by simp [Setting.IsRefused, Arguments.none])
  obtain ⟨depth, hdepth, hlimit⟩ := hdecided.configured_depth rfl _ rfl
  obtain rfl : depth = 10 := Except.ok.inj
    ((Depth.ofSetting_eq_ok_iff.mpr hdepth).symm.trans (Depth.ofSetting_eq_ok_iff.mpr hgives))
  refine ⟨o, ho, hlimit, hdecided.strict_iff.mpr (.inr rfl), ?_⟩
  exact hdecided.default_output (fun _ h => by cases h) (fun _ h => by cases h)

/-- A number of one digit more than can be written. -/
def oversizedNumber : Int := Nat.pow 10 maxDigits

theorem isWritable_oversizedNumber : Numeral.isWritable oversizedNumber = false := by
  rw [Numeral.isWritable, oversizedNumber, Int.natAbs_natCast, decide_eq_false_iff_not]
  exact Nat.lt_irrefl _

/-- A list with this number in it, where a depth is expected. -/
def unshowableConfiguration : Table :=
  [("eval", .table [("max_depth", .list [.integer oversizedNumber])])]

/-- Not every depth that is none is refused: one that cannot be shown breaks off the run. -/
theorem not_refused_of_unshowable :
    ¬ ∀ (a : Arguments) (configuration : Table),
      (∃ fault, merge a configuration = .error (.reported fault)) ↔
        Setting.IsRefused (configuration.entryIn? "eval" "max_depth") ∨
          Setting.IsRefused (a.maxDepth.map switchSetting) := by
  intro h
  -- The list is no depth, and its number has too many digits for the message of the fault.
  have hentry : unshowableConfiguration.entryIn? "eval" "max_depth" =
      some (.list [.integer oversizedNumber]) := rfl
  have hnone (depth : Nat) : ¬ (Setting.list [.integer oversizedNumber]).GivesDepth depth := by
    rintro ⟨⟩
  have hobstacle : (Setting.list [.integer oversizedNumber]).obstacle? =
      some .unwritableNumber := by
    simp [Setting.obstacle?, Setting.maxShownNesting, Setting.obstacleWithin?,
      Setting.obstacleAmong?, isWritable_oversizedNumber]
  have habort : merge Arguments.none unshowableConfiguration =
      .error (.aborted .unwritableNumber) :=
    merge_eq_aborted_iff.mpr ⟨_, hentry, Depth.ofSetting_eq_aborted_iff.mpr ⟨hnone, hobstacle⟩⟩
  obtain ⟨fault, hfault⟩ :=
    (h Arguments.none unshowableConfiguration).mpr (.inl ⟨_, hentry, hnone⟩)
  rw [habort] at hfault
  cases hfault

end Options

end Transclude
