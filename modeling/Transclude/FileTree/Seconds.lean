import Transclude.FileTree.Basic

/-!
# Times in seconds

A program is told a time as a floating-point number of seconds: the whole seconds, and what the
nanoseconds behind them make of another one. The product and the sum are rounded, so times that are
close to one another may be told alike.

Numbers of seconds are counted in the least binary fraction that any of them needs.

## Main definitions

* `roundBinary` — the nearest number that has few enough binary digits
* `Time.seconds` — a time as it is told
-/

namespace Transclude

/-- A floating-point number has this many binary digits. -/
def maxBinaryDigits : Nat := 53

/-- The nearest number that has few enough binary digits, and of two that are equally near the one
whose last digit is even. -/
def roundBinary (n : Int) : Int :=
  let step := 1 <<< (n.natAbs.log2 + 1 - maxBinaryDigits)
  let quotient := n.natAbs / step
  let remainder := n.natAbs % step
  let isUp := step < 2 * remainder || (2 * remainder = step && quotient % 2 = 1)
  let rounded := Int.ofNat ((if isUp then quotient + 1 else quotient) * step)
  if n < 0 then -rounded else rounded

/-- A number of seconds, in fractions of which `secondFractions` make a second. -/
abbrev Seconds := Int

/-- The fractions in a second. -/
def secondFractions : Seconds := Int.ofNat (1 <<< 82)

/-- A nanosecond, as near as a floating-point number of seconds comes to it. -/
def nanosecond : Seconds := 4835703278458517

/-- The nanoseconds in a second. -/
def nanosecondsPerSecond : Time := 1000000000

/-- A time as it is told. -/
def Time.seconds (time : Time) : Seconds :=
  let whole := roundBinary (time / nanosecondsPerSecond * secondFractions)
  let fraction := roundBinary (nanosecond * (time % nanosecondsPerSecond))
  roundBinary (whole + fraction)

/-- Times that are next to one another are told alike when they are far enough from zero. -/
example : Time.seconds 10000000000000026 = Time.seconds 10000000000000027 := by decide +kernel

end Transclude
