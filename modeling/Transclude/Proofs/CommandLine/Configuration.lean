import Mathlib.Data.Nat.Digits.Lemmas
import Transclude.CommandLine.Options
import Transclude.Proofs.Spelling.Lenient
import Transclude.Proofs.Toml

/-!
# What breaks off the resolving of options

A configuration is a file that is read as text, then as a table, and then asked for a depth limit.
Whatever is wrong with it is reported, save for a few things that nobody answers for: its path may
hold too long a name, its bytes may spell no text, its values may stand within one another too
deeply, and its numbers may have too many digits, be it to be read or to be shown. What stands on
the command line never breaks off anything.

## Main definitions

* `Setting.Obstacle` — what keeps a setting from being shown
* `Options.Obstructed` — what breaks off the resolving of options

## Main results

* `Setting.obstacle_of_obstacle?` — nothing else keeps a setting from being shown
* `Depth.ofString_ne_aborted` — a depth that is given as a string breaks off nothing
* `Options.resolve_eq_aborted_iff` — what breaks off the resolving of options
-/

namespace Transclude

/-! ## Showing a setting -/

namespace Setting

/-- What keeps a setting from being shown. -/
inductive Obstacle : Abort → Prop
  | nesting : Obstacle .deepNesting
  | number : Obstacle .unwritableNumber

variable {room : Nat} {setting : Setting} {items : List Setting} {entries : Table} {abort : Abort}

/-- What keeps a list from being shown keeps one of its items from it. -/
theorem exists_mem_of_obstacleAmong? (h : obstacleAmong? room items = some abort) :
    ∃ item ∈ items, item.obstacleWithin? room = some abort := by
  induction items with
  | nil => cases h
  | cons item rest ih =>
    rw [obstacleAmong?, Option.orElse_eq_orElse, Option.orElse_eq_or, Option.or_eq_some_iff] at h
    obtain hitem | ⟨-, hrest⟩ := h
    · exact ⟨item, List.mem_cons_self, hitem⟩
    · obtain ⟨other, hmem, hother⟩ := ih hrest
      exact ⟨other, List.mem_cons_of_mem _ hmem, hother⟩

/-- What keeps a table from being shown keeps one of its settings from it. -/
theorem exists_mem_of_obstacleAmongEntries? (h : obstacleAmongEntries? room entries = some abort) :
    ∃ entry ∈ entries, entry.2.obstacleWithin? room = some abort := by
  induction entries with
  | nil => cases h
  | cons entry rest ih =>
    obtain ⟨name, item⟩ := entry
    rw [obstacleAmongEntries?, Option.orElse_eq_orElse, Option.orElse_eq_or,
      Option.or_eq_some_iff] at h
    obtain hitem | ⟨-, hrest⟩ := h
    · exact ⟨_, List.mem_cons_self, hitem⟩
    · obtain ⟨other, hmem, hother⟩ := ih hrest
      exact ⟨other, List.mem_cons_of_mem _ hmem, hother⟩

theorem obstacle_of_obstacleWithin? (h : setting.obstacleWithin? room = some abort) :
    Obstacle abort := by
  induction room generalizing setting with
  | zero =>
    unfold obstacleWithin? at h
    cases h
    exact .nesting
  | succ room ih =>
    cases setting with
    | integer n =>
      unfold obstacleWithin? at h
      split at h
      · cases h
      · cases h
        exact .number
    | list items =>
      obtain ⟨item, -, hitem⟩ := exists_mem_of_obstacleAmong? h
      exact ih hitem
    | table entries =>
      obtain ⟨entry, -, hentry⟩ := exists_mem_of_obstacleAmongEntries? h
      exact ih hentry
    | _ => cases h

/-- Nothing else keeps a setting from being shown. -/
theorem obstacle_of_obstacle? (h : setting.obstacle? = some abort) : Obstacle abort :=
  obstacle_of_obstacleWithin? h

end Setting

/-! ## Depths -/

namespace Numeral

variable {cs : List Char} {digits : List Nat}

@[simp] theorem natAbs_signed (negative : Bool) (n : Nat) : (signed negative n).natAbs = n := by
  unfold signed
  split <;> simp

/-- What stands between underscores are digits. -/
theorem lt_ten_of_spacedDigits? (h : spacedDigits? cs = some digits) :
    ∀ digit ∈ digits, digit < 10 := by
  fun_induction spacedDigits? cs generalizing digits with
  | case1 => cases h
  | case2 c =>
    obtain ⟨first, hfirst, rfl⟩ := Option.map_eq_some_iff.mp h
    simpa using digitValue?_lt hfirst
  | case3 c rest ih | case4 c rest _ _ ih =>
    obtain ⟨first, hfirst, h⟩ := Option.bind_eq_some_iff.mp h
    obtain ⟨others, hothers, h⟩ := Option.bind_eq_some_iff.mp h
    cases h
    exact List.forall_mem_cons.mpr ⟨digitValue?_lt hfirst, ih hothers⟩

/-- Digits write a number below the power of ten that their count gives. -/
theorem value_lt_pow (h : ∀ digit ∈ digits, digit < 10) :
    value digits < Nat.pow 10 digits.length := by
  rw [value_eq_ofDigits, ← List.length_reverse]
  exact Nat.ofDigits_lt_base_pow_length (by decide) (by simpa using h)

/-- A number that a string spells can be written again. -/
theorem isWritable_of_parseInteger? {s : String} {n : Int} (h : parseInteger? s = some n) :
    isWritable n = true := by
  unfold parseInteger? at h
  split at h
  · rename_i negative digits hdigits
    split at h
    · rename_i hfew
      obtain ⟨other, hspaced, hother⟩ := Option.map_eq_some_iff.mp hdigits
      obtain rfl : other = digits := congrArg Prod.snd hother
      cases h
      rw [isWritable, natAbs_signed, decide_eq_true_iff]
      -- The power is too large to be computed.
      generalize maxDigits = most at hfew ⊢
      exact (value_lt_pow (lt_ten_of_spacedDigits? hspaced)).trans_le
        (Nat.pow_le_pow_right (by decide) hfew)
    · cases h
  · cases h

end Numeral

namespace Depth

variable {setting : Setting} {abort : Abort}

/-- A setting that gives no depth breaks off the run if it cannot be shown. -/
theorem reject_eq_aborted_iff :
    reject setting = .error (.aborted abort) ↔ setting.obstacle? = some abort := by
  unfold reject
  split <;> simp_all

/-- A depth that is given as a string breaks off nothing. -/
theorem ofString_ne_aborted (s : String) : ofString s ≠ .error (.aborted abort) := by
  unfold ofString
  split
  · rename_i n hn
    unfold ofInt
    split
    · simp
    · rw [Ne, reject_eq_aborted_iff, Setting.obstacle?, Setting.maxShownNesting,
        Setting.obstacleWithin?, if_pos (Numeral.isWritable_of_parseInteger? hn)]
      simp
  · rw [Ne, reject_eq_aborted_iff, Setting.obstacle?, Setting.maxShownNesting,
      Setting.obstacleWithin?] <;> simp

/-- A depth breaks off the run only because it is none and cannot be shown. -/
theorem obstacle_of_ofSetting (h : ofSetting setting = .error (.aborted abort)) :
    Setting.Obstacle abort := by
  unfold ofSetting at h
  split at h
  · unfold ofInt at h
    split at h
    · cases h
    · exact Setting.obstacle_of_obstacle? (reject_eq_aborted_iff.mp h)
  · exact absurd h (ofString_ne_aborted _)
  · exact Setting.obstacle_of_obstacle? (reject_eq_aborted_iff.mp h)

end Depth

/-! ## Resolving the options -/

namespace Options

variable {a : Arguments} {configuration : Table} {abort : Abort}

/-- A depth that a switch gives breaks off nothing. -/
theorem ofSetting_switchSetting_ne_aborted (value : Option String) :
    Depth.ofSetting (switchSetting value) ≠ .error (.aborted abort) := by
  cases value with
  | some text => exact Depth.ofString_ne_aborted text
  | none =>
    rw [switchSetting, Depth.ofSetting, Ne, Depth.reject_eq_aborted_iff, Setting.obstacle?,
      Setting.maxShownNesting, Setting.obstacleWithin?, Setting.obstacleAmong?] <;> simp

theorem optionalDepth_eq_aborted_iff {given : Option Setting} :
    optionalDepth given = .error (.aborted abort) ↔
      ∃ setting, given = some setting ∧ Depth.ofSetting setting = .error (.aborted abort) := by
  cases given with
  | none => simp [optionalDepth]
  | some setting =>
    cases hdepth : Depth.ofSetting setting <;> simp [optionalDepth, hdepth, Except.map]

/-- What the options are merged from breaks off the run only by the depth that is configured. -/
theorem merge_eq_aborted_iff : merge a configuration = .error (.aborted abort) ↔
    ∃ setting, configuration.entryIn? "eval" "max_depth" = some setting ∧
      Depth.ofSetting setting = .error (.aborted abort) := by
  rw [← optionalDepth_eq_aborted_iff]
  unfold merge mergeEntries
  cases optionalDepth (configuration.entryIn? "eval" "max_depth") with
  | error failure => simp [bind, Except.bind]
  | ok configured =>
    cases hgiven : optionalDepth (a.maxDepth.map switchSetting) with
    | ok given => simp [bind, Except.bind, pure, Except.pure]
    | error failure =>
      simp only [bind, Except.bind, Except.error.injEq, reduceCtorEq, iff_false]
      rintro rfl
      obtain ⟨setting, hsetting, hdepth⟩ := optionalDepth_eq_aborted_iff.mp hgiven
      obtain ⟨value, -, rfl⟩ := Option.map_eq_some_iff.mp hsetting
      exact ofSetting_switchSetting_ne_aborted value hdepth

end Options

namespace FileTree

variable {files : FileTree} {path : Path} {fault : AccessFault} {bytes : List UInt8}
variable {abort : Abort}

/-- Whether a path leads to a file is left open by a name that is too long, and by nothing else. -/
theorem isFile_eq_error_iff :
    files.isFile path = .error fault ↔
      files.find path = .error .nameTooLong ∧ fault = .nameTooLong := by
  unfold isFile
  cases files.find path with
  | ok entry => cases entry <;> simp
  | error other => cases other <;> simp [eq_comm]

/-- A path that leads to a file can be read, and no other one. -/
theorem isFile_eq_true_iff :
    files.isFile path = .ok true ↔ ∃ bytes, files.read path = .ok bytes := by
  unfold isFile read
  cases files.find path with
  | ok entry => cases entry <;> simp
  | error other => cases other <;> simp

end FileTree

/-- What is told of an error has no say in what breaks off the run. -/
theorem Failure.mapError_map_eq_aborted_iff {ε ε' α : Type} {f : ε → ε'}
    {result : Except (Failure ε) α} {abort : Abort} :
    result.mapError (·.map f) = .error (.aborted abort) ↔ result = .error (.aborted abort) := by
  rcases result with (error | other) | a <;> simp [Except.mapError]

namespace Options

/-- What breaks off the resolving of options. -/
inductive Obstructed (a : Arguments) (files : FileTree) : Abort → Prop
  /-- The path of the configuration holds too long a name. -/
  | unreachable (hfind : files.find a.configurationFile = .error .nameTooLong) :
      Obstructed a files (.inaccessible a.configurationFile .nameTooLong)
  /-- The configuration is no text. -/
  | undecodable {bytes fault} (hread : files.read a.configurationFile = .ok bytes)
      (hdecode : Utf8.decode bytes = .error fault) : Obstructed a files (.undecodable fault)
  /-- The configuration nests too deeply, or a number in it has too many digits. -/
  | unread {bytes text abort} (hread : files.read a.configurationFile = .ok bytes)
      (hdecode : Utf8.decode bytes = .ok text) (hparse : Toml.parse text = .error (.aborted abort))
      (hobstacle : Toml.Obstacle abort) : Obstructed a files abort
  /-- The depth that is configured is none, and cannot be shown. -/
  | unshown {configuration setting abort}
      (hconfiguration : files.configuration a.configurationFile = .ok configuration)
      (hsetting : configuration.entryIn? "eval" "max_depth" = some setting)
      (hdepth : Depth.ofSetting setting = .error (.aborted abort))
      (hobstacle : Setting.Obstacle abort) : Obstructed a files abort

variable {a : Arguments} {files : FileTree} {abort : Abort}

/-- The configuration breaks off the run by its path, its bytes or its values. -/
theorem obstructed_of_configuration
    (h : files.configuration a.configurationFile = .error (.aborted abort)) :
    Obstructed a files abort := by
  unfold FileTree.configuration at h
  split at h
  · rename_i fault hfile
    obtain ⟨hfind, rfl⟩ := FileTree.isFile_eq_error_iff.mp hfile
    cases h
    exact .unreachable hfind
  · cases h
  rename_i hfile
  obtain ⟨bytes, hread⟩ := FileTree.isFile_eq_true_iff.mp hfile
  simp only [hread, decodeConfiguration] at h
  cases hdecode : Utf8.decode bytes with
  | error fault =>
    simp only [hdecode, Except.error.injEq, Failure.aborted.injEq] at h
    subst h
    exact .undecodable hread hdecode
  | ok text =>
    simp only [hdecode, Failure.mapError_map_eq_aborted_iff] at h
    exact .unread hread hdecode h (Toml.isAnswered_parse text _ h)

/-- Nothing but such an obstruction breaks off the resolving of options, and all of them do. -/
theorem resolve_eq_aborted_iff :
    resolve a files = .error (.aborted abort) ↔ Obstructed a files abort := by
  constructor
  · intro h
    unfold resolve at h
    cases hconfiguration : files.configuration a.configurationFile with
    | error failure =>
      simp only [hconfiguration, Except.error.injEq] at h
      subst h
      exact obstructed_of_configuration hconfiguration
    | ok configuration =>
      simp only [hconfiguration, Failure.mapError_map_eq_aborted_iff] at h
      obtain ⟨setting, hsetting, hdepth⟩ := merge_eq_aborted_iff.mp h
      exact .unshown hconfiguration hsetting hdepth (Depth.obstacle_of_ofSetting hdepth)
  · intro h
    cases h with
    | unreachable hfind =>
      have hfile := FileTree.isFile_eq_error_iff.mpr ⟨hfind, rfl⟩
      simp only [resolve, FileTree.configuration, hfile]
    | undecodable hread hdecode =>
      have hfile := FileTree.isFile_eq_true_iff.mpr ⟨_, hread⟩
      simp only [resolve, FileTree.configuration, hfile, hread, decodeConfiguration, hdecode]
    | unread hread hdecode hparse _ =>
      have hfile := FileTree.isFile_eq_true_iff.mpr ⟨_, hread⟩
      simp only [resolve, FileTree.configuration, hfile, hread, decodeConfiguration, hdecode,
        hparse, Except.mapError, Failure.map_aborted]
    | unshown hconfiguration hsetting hdepth _ =>
      have hmerge : merge a _ = _ := merge_eq_aborted_iff.mpr ⟨_, hsetting, hdepth⟩
      simp only [resolve, hconfiguration, hmerge, Except.mapError, Failure.map_aborted]

end Options

end Transclude
