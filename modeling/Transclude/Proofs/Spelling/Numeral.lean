import Transclude.Proofs.Printing.Argument
import Transclude.Proofs.Traversal

/-!
# Numerals among the arguments

An argument that is neither a string nor a path has to be a numeral: decimal digits, perhaps behind
a sign. Its value decides: within the range of numbers it is read, whatever zeros stand in front,
and beyond the range it is a fault like any other spelling. Only the count of its digits comes
before the value. A numeral of more digits than are ever converted breaks off the run, even if its
value is small, and nothing else that is written between braces does.

## Main definitions

* `Numeral.Writes` — decimal digits, perhaps behind a sign, write a number
* `Numeral.IsDecimal` — one or more decimal digits
* `Value.BreaksOff` — a piece is a numeral of too many digits
* `Invocation.BreaksOff` — an argument of a call is one
* `excessiveZeros` — a numeral of too many digits that writes zero

## Main results

* `Numeral.strict?_of_writes`, `Numeral.exists_writes_of_strict?` — numerals are what is written so
* `Value.ofPiece_of_writes`, `Value.ofPiece_of_not_writes` — a bare argument is decided by its value
* `Value.breaksOff_of_ofPiece`, `Invocation.breaksOff_of_ofBody` — what breaks off a run
-/

namespace Transclude

variable {text digits piece body : List Char} {n : Int}

namespace Numeral

/-- One or more of the digits `0` to `9`. -/
structure IsDecimal (digits : List Char) : Prop where
  ne_nil : digits ≠ []
  digit : ∀ c ∈ digits, '0' ≤ c ∧ c ≤ '9'

/-- Decimal digits, perhaps behind a sign, write a number. -/
inductive Writes : (text digits : List Char) → Int → Prop
  | unsigned {ds} (hdigits : IsDecimal ds) : Writes ds ds (Nat.ofDigitChars 10 ds 0)
  | plus {ds} (hdigits : IsDecimal ds) : Writes ('+' :: ds) ds (Nat.ofDigitChars 10 ds 0)
  | minus {ds} (hdigits : IsDecimal ds) : Writes ('-' :: ds) ds (-(Nat.ofDigitChars 10 ds 0))

theorem isDecimal_iff :
    IsDecimal digits ↔ digits ≠ [] ∧ digits.all isAsciiDigit = true := by
  have hdigit (c : Char) : isAsciiDigit c = true ↔ '0' ≤ c ∧ c ≤ '9' := by
    simp [isAsciiDigit, Char.isDigit, Char.le_def]
  constructor
  · rintro ⟨hne, hall⟩
    exact ⟨hne, List.all_eq_true.mpr fun c hc => (hdigit c).mpr (hall c hc)⟩
  · rintro ⟨hne, hall⟩
    exact ⟨hne, fun c hc => (hdigit c).mp (List.all_eq_true.mp hall c hc)⟩

theorem IsDecimal.isDigit_head (h : IsDecimal digits) : ∀ c ∈ digits.head?, c.isDigit = true :=
  fun c hc => List.all_eq_true.mp (isDecimal_iff.mp h).2 c (List.mem_of_mem_head? hc)

theorem value_map_asciiDigitValue (digits : List Char) :
    value (digits.map asciiDigitValue) = Nat.ofDigitChars 10 digits 0 := by
  rw [value, List.foldl_map]
  exact Nat.ofDigitChars_eq_foldl.symm

/-- What is written as a numeral is read as one, with its value. -/
theorem strict?_of_writes (h : Writes text digits n) :
    ∃ negative, strict? text = some (negative, digits.map asciiDigitValue) ∧
      signed negative (value (digits.map asciiDigitValue)) = n := by
  rw [value_map_asciiDigitValue]
  cases h with
  | unsigned hdigits =>
    have hsign := splitSign_of_isDigit hdigits.isDigit_head
    exact ⟨false, by simp [strict?, hsign, isDecimal_iff.mp hdigits], rfl⟩
  | plus hdigits =>
    exact ⟨false, by simp [strict?, splitSign, isDecimal_iff.mp hdigits], rfl⟩
  | minus hdigits =>
    exact ⟨true, by simp [strict?, splitSign, isDecimal_iff.mp hdigits], rfl⟩

/-- What is read as a numeral is written as one. -/
theorem exists_writes_of_strict? {negative : Bool} {values : List Nat}
    (h : strict? text = some (negative, values)) : ∃ digits n, Writes text digits n := by
  unfold strict? at h
  have hdecimal : IsDecimal (splitSign text).2 := by
    by_contra hnot
    rw [isDecimal_iff] at hnot
    simp_all
  -- Without a sign the digits are the whole text, and otherwise what follows the sign.
  unfold splitSign at hdecimal
  split at hdecimal
  · exact ⟨_, _, .minus hdecimal⟩
  · exact ⟨_, _, .plus hdecimal⟩
  · exact ⟨_, _, .unsigned hdecimal⟩

end Numeral

open Numeral

namespace Value

/-- An argument that does not begin like a literal is read as a number. -/
theorem ofPiece_of_bare (hne : stripBlanks piece ≠ [])
    (hbare : ∀ c ∈ (stripBlanks piece).head?, c ≠ '"' ∧ c ≠ '#') :
    ofPiece piece = parseNumber (stripBlanks piece) := by
  unfold ofPiece
  dsimp only
  split
  · rename_i hnil
    exact absurd hnil hne
  · rename_i heq
    exact absurd rfl (hbare '"' (by simp [heq])).1
  · rename_i heq
    exact absurd rfl (hbare '#' (by simp [heq])).2
  · rfl

theorem bare_of_writes (h : Writes text digits n) :
    text ≠ [] ∧ ∀ c ∈ text.head?, c ≠ '"' ∧ c ≠ '#' := by
  have hdelimiter {c : Char} (hc : c.isDigit = true) : c ≠ '"' ∧ c ≠ '#' := by
    constructor <;> rintro rfl <;> contradiction
  cases h with
  | unsigned hdigits => exact ⟨hdigits.ne_nil, fun c hc => hdelimiter (hdigits.isDigit_head c hc)⟩
  | plus => simp
  | minus => simp

/-- A numeral that has not too many digits is decided by its value. -/
theorem ofPiece_of_writes (h : Writes (stripBlanks piece) digits n)
    (hcount : digits.length ≤ maxDigits) :
    ofPiece piece =
      if minNumber ≤ n ∧ n ≤ maxNumber then .ok (.number n)
      else .error (.reported (.invalidInteger (String.ofList (stripBlanks piece)))) := by
  obtain ⟨hne, hbare⟩ := bare_of_writes h
  obtain ⟨negative, hread, hvalue⟩ := strict?_of_writes h
  rw [ofPiece_of_bare hne hbare, parseNumber, hread]
  simp [Nat.not_lt.mpr hcount, hvalue]

/-- A numeral of too many digits breaks off the run. -/
theorem ofPiece_of_lt_length (h : Writes (stripBlanks piece) digits n)
    (hcount : maxDigits < digits.length) :
    ofPiece piece = .error (.aborted (.oversizedNumeral digits.length)) := by
  obtain ⟨hne, hbare⟩ := bare_of_writes h
  obtain ⟨negative, hread, -⟩ := strict?_of_writes h
  rw [ofPiece_of_bare hne hbare, parseNumber, hread]
  simp [hcount]

/-- A bare argument that is no numeral is not read. -/
theorem ofPiece_of_not_writes (hne : stripBlanks piece ≠ [])
    (hbare : ∀ c ∈ (stripBlanks piece).head?, c ≠ '"' ∧ c ≠ '#')
    (h : ¬ ∃ digits n, Writes (stripBlanks piece) digits n) :
    ofPiece piece = .error (.reported (.invalidInteger (String.ofList (stripBlanks piece)))) := by
  rw [ofPiece_of_bare hne hbare, parseNumber]
  cases hread : strict? (stripBlanks piece) with
  | none => rfl
  | some found => exact absurd (exists_writes_of_strict? hread) h

/-- The piece is a numeral of so many digits, which are too many. -/
def BreaksOff (piece : List Char) (count : Nat) : Prop :=
  ∃ digits n, Writes (stripBlanks piece) digits n ∧ digits.length = count ∧ maxDigits < count

theorem ofPiece_of_breaksOff {count : Nat} (h : BreaksOff piece count) :
    ofPiece piece = .error (.aborted (.oversizedNumeral count)) := by
  obtain ⟨digits, n, hwrites, rfl, hcount⟩ := h
  exact ofPiece_of_lt_length hwrites hcount

theorem bare_of_ofPiece {abort : Abort} (h : ofPiece piece = .error (.aborted abort)) :
    stripBlanks piece ≠ [] ∧ ∀ c ∈ (stripBlanks piece).head?, c ≠ '"' ∧ c ≠ '#' := by
  unfold ofPiece at h
  dsimp only at h
  split at h
  · cases h
  · rename_i rest _
    cases hliteral : literal? '"' rest <;> simp [hliteral] at h
  · rename_i rest _
    cases hliteral : literal? '#' rest <;> simp [hliteral] at h
  · rename_i hne hstring hpath
    refine ⟨hne, fun c hc => ⟨?_, ?_⟩⟩
    · rintro rfl
      obtain ⟨rest, heq⟩ := List.head?_eq_some_iff.mp hc
      exact hstring rest heq
    · rintro rfl
      obtain ⟨rest, heq⟩ := List.head?_eq_some_iff.mp hc
      exact hpath rest heq

/-- Only numerals of too many digits break off the run. -/
theorem breaksOff_of_ofPiece {abort : Abort} (h : ofPiece piece = .error (.aborted abort)) :
    ∃ count, BreaksOff piece count ∧ abort = .oversizedNumeral count := by
  obtain ⟨hne, hbare⟩ := bare_of_ofPiece h
  by_cases hwrites : ∃ digits n, Writes (stripBlanks piece) digits n
  · obtain ⟨digits, n, hwrites⟩ := hwrites
    rcases Nat.lt_or_ge maxDigits digits.length with hcount | hcount
    · rw [ofPiece_of_lt_length hwrites hcount] at h
      cases h
      exact ⟨_, ⟨digits, n, hwrites, rfl, hcount⟩, rfl⟩
    · rw [ofPiece_of_writes hwrites hcount] at h
      split at h <;> cases h
  · rw [ofPiece_of_not_writes hne hbare hwrites] at h
    cases h

end Value

/-- An argument of the call is a numeral of so many digits, which are too many. -/
def Invocation.BreaksOff (body : List Char) (count : Nat) : Prop :=
  ∃ name rest, splitName body = .ok (some (name, rest)) ∧
    ∃ piece ∈ (ArgumentPieces.split rest).meant, Value.BreaksOff piece count

/-- A call breaks off the run only by such an argument. -/
theorem Invocation.breaksOff_of_ofBody {abort : Abort}
    (h : ofBody body = .error (.aborted abort)) :
    ∃ count, BreaksOff body count ∧ abort = .oversizedNumeral count := by
  unfold ofBody at h
  split at h
  · cases h
  · cases h
  · rename_i name rest hsplit
    cases harguments : (ArgumentPieces.split rest).meant.mapM Value.ofPiece with
    | ok arguments =>
      rw [harguments] at h
      cases h
    | error failure =>
      rw [harguments] at h
      cases h
      obtain ⟨piece, hmem, hpiece⟩ := exists_mem_of_mapM_eq_error harguments
      obtain ⟨count, hbreaks, rfl⟩ := Value.breaksOff_of_ofPiece hpiece
      exact ⟨count, ⟨name, rest, hsplit, piece, hmem, hbreaks⟩, rfl⟩

/-- Zeros, one more than there are digits that are converted. -/
def excessiveZeros : List Char :=
  List.replicate (maxDigits + 1) '0'

theorem Numeral.isDecimal_excessiveZeros : IsDecimal excessiveZeros := by
  refine ⟨by simp [excessiveZeros], fun c hc => ?_⟩
  obtain rfl := List.eq_of_mem_replicate hc
  decide

theorem Numeral.writes_excessiveZeros : Writes excessiveZeros excessiveZeros 0 := by
  have hvalue (k : Nat) : Nat.ofDigitChars 10 (List.replicate k '0') 0 = 0 := by
    induction k with
    | zero => rfl
    | succ k ih => exact ih
  have hwrites := Writes.unsigned isDecimal_excessiveZeros
  rwa [excessiveZeros, hvalue] at hwrites

theorem stripBlanks_excessiveZeros : stripBlanks excessiveZeros = excessiveZeros := by
  have hzero : ∀ c ∈ excessiveZeros, isBlank c = false := by
    intro c hc
    obtain rfl := List.eq_of_mem_replicate hc
    rfl
  have hpadded := @stripWhere_padded isBlank [] [] excessiveZeros (by simp) (by simp)
    isDecimal_excessiveZeros.ne_nil (fun c hc => hzero c (List.mem_of_mem_head? hc))
    (fun c hc => hzero c (List.mem_of_mem_getLast? hc))
  simpa [stripBlanks] using hpadded

end Transclude
