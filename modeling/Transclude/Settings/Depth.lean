import Transclude.Error.Abort
import Transclude.Settings.Setting

/-!
# Depths

A depth is a positive whole number. As a setting it may be given as a number or as a string that
spells one in lenient form; booleans are no numbers. Any other setting is refused and shown; one
that cannot be shown breaks off the run.

## Main definitions

* `parseInteger?` — the whole number that a string spells
* `Depth.ofSetting` — the depth that a setting gives

## Main results

* `Depth.one_le_of_ofSetting` — every depth is positive
-/

namespace Transclude

/-- The whole number that a string spells in lenient form; none if it has too many digits. -/
def parseInteger? (s : String) : Option Int :=
  match Numeral.lenient? s.toList with
  | some (negative, digits) =>
    if digits.length ≤ maxDigits then some (Numeral.signed negative (Numeral.value digits))
    else none
  | none => none

namespace Depth

/-- A setting that gives no depth, as it is shown. -/
structure Fault where
  shown : String
  deriving DecidableEq

/-- How a setting that gives no depth is reported. -/
def Fault.message (fault : Fault) : String :=
  s!"invalid depth (expected positive integer): {fault.shown}"

/-- Refuses a setting that gives no depth, by showing it if it can be shown. -/
def reject (setting : Setting) : Except (Failure Fault) Nat :=
  match setting.obstacle? with
  | none => .error (.reported ⟨setting.text⟩)
  | some abort => .error (.aborted abort)

/-- The depth that a number gives. -/
def ofInt (n : Int) : Except (Failure Fault) Nat :=
  if 1 ≤ n then .ok n.toNat else reject (.integer n)

/-- The depth that a string gives. -/
def ofString (s : String) : Except (Failure Fault) Nat :=
  match parseInteger? s with
  | some n => ofInt n
  | none => reject (.string s)

/-- The depth that a setting gives. -/
def ofSetting : Setting → Except (Failure Fault) Nat
  | .integer n => ofInt n
  | .string s => ofString s
  | other => reject other

theorem reject_ne_ok (setting : Setting) (depth : Nat) : reject setting ≠ .ok depth := by
  unfold reject
  split <;> simp

theorem one_le_of_ofInt {n : Int} {depth : Nat} (h : ofInt n = .ok depth) : 1 ≤ depth := by
  unfold ofInt at h
  split at h
  · cases h; omega
  · exact absurd h (reject_ne_ok _ _)

theorem one_le_of_ofSetting {setting : Setting} {depth : Nat}
    (h : ofSetting setting = .ok depth) : 1 ≤ depth := by
  unfold ofSetting at h
  split at h
  · exact one_le_of_ofInt h
  · unfold ofString at h
    split at h
    · exact one_le_of_ofInt h
    · exact absurd h (reject_ne_ok _ _)
  · exact absurd h (reject_ne_ok _ _)

end Depth

end Transclude
