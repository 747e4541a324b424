import Transclude.Error.Abort
import Transclude.Error.Basic

/-!
# Providers

A provider makes functions callable. It exposes descriptors of its functions and carries out calls
to them: from the function's name, the arguments and the directory of the calling document it
produces a document that takes the call's place. Providers are registered in an order, and a call
goes to the first one that exposes its function; that later ones expose it too does not matter.

Carrying out a call may leave a note for the log before it succeeds or fails.

## Main definitions

* `Provider` — descriptors, and how calls are carried out
* `Provider.describe` — the descriptor of a function
* `Registry.find` — the provider that a call goes to
* `Registry.functionNames` — the names that can be called

## Main results

* `Registry.find_eq_none_iff` — what no provider exposes is what is not found
-/

namespace Transclude

/-- What carrying out a call comes to. -/
structure Production where
  /-- The files that were asked for on the way. -/
  included : List Path
  result : Except (Failure CompilationError) Document

/-- A component that makes functions callable. -/
structure Provider where
  /-- The name that the provider goes by in logs. -/
  name : String
  functions : List Descriptor
  /-- Carries out a call: the function, its arguments, and the directory of the calling
  document. -/
  invoke : String → List Value → Path → Production

/-- The descriptor of a function, if the provider exposes it. -/
def Provider.describe (p : Provider) (function : String) : Option Descriptor :=
  p.functions.find? (·.name = function)

/-- Providers in the order of their registration. -/
structure Registry where
  providers : List Provider

namespace Registry

/-- The first provider that exposes a function, with its place in the registry and the
descriptor. -/
def findFrom (index : Nat) (function : String) :
    List Provider → Option (Nat × Provider × Descriptor)
  | [] => none
  | p :: rest =>
    match p.describe function with
    | some descriptor => some (index, p, descriptor)
    | none => findFrom (index + 1) function rest

/-- The provider that calls of a function go to, with its place in the registry and the descriptor
of the function. -/
def find (r : Registry) (function : String) : Option (Nat × Provider × Descriptor) :=
  findFrom 0 function r.providers

/-- The number of registered providers. -/
def size (r : Registry) : Nat :=
  r.providers.length

/-- The names that can be called, each once, in the order of their characters. -/
def functionNames (r : Registry) : List String :=
  ((r.providers.flatMap Provider.functions).map Descriptor.name).eraseDups.mergeSort (· ≤ ·)

theorem findFrom_eq_none_iff {index : Nat} {function : String} {providers : List Provider} :
    findFrom index function providers = none ↔ ∀ p ∈ providers, p.describe function = none := by
  induction providers generalizing index with
  | nil => simp [findFrom]
  | cons p rest ih => cases h : p.describe function <;> simp [findFrom, h, ih]

theorem find_eq_none_iff {r : Registry} {function : String} :
    r.find function = none ↔ ∀ p ∈ r.providers, p.describe function = none :=
  findFrom_eq_none_iff

end Registry

end Transclude
