import Mathlib.Data.List.Basic
import Transclude.Document.Invocation
import Transclude.Proofs.Path

/-!
# Printed arguments

Every kind of value has a spelling: strings stand between double quotes, paths between number
signs, and numbers are written in decimal. An argument may have blanks on both sides of it; reading
one gives back its value.

## Main definitions

* `Value.printed` — the spelling of a value
* `Value.IsPrintable` — a value whose spelling is one: its delimiter does not occur inside of it,
  and a number is not too large

## Main results

* `stripBlanks_padded` — the blanks around a text are taken off
* `Numeral.strict?_repr` — a number is read from its decimal digits
* `Value.ofPiece_printed` — a value is read from its spelling
-/

namespace Transclude

variable {p : Char → Bool} {before behind cs : List Char}

/-! ### Blanks -/

/-- The code points of the blanks. -/
def blankCodes : List Nat :=
  [0x9, 0xA, 0xB, 0xC, 0xD, 0x1C, 0x1D, 0x1E, 0x1F, 0x20, 0x85, 0xA0, 0x1680, 0x2000, 0x2001,
    0x2002, 0x2003, 0x2004, 0x2005, 0x2006, 0x2007, 0x2008, 0x2009, 0x200A, 0x2028, 0x2029, 0x202F,
    0x205F, 0x3000]

theorem toNat_mem_blankCodes {c : Char} (h : isBlank c = true) : c.toNat ∈ blankCodes := by
  simp only [isBlank, Bool.or_eq_true, Bool.and_eq_true, decide_eq_true_eq] at h
  simp only [blankCodes, List.mem_cons, List.not_mem_nil, or_false]
  omega

/-- No blank is part of a name. -/
theorem isAlphanumeric_eq_false_of_isBlank {c : Char} (h : isBlank c = true) :
    isAlphanumeric c = false := by
  have hcodes : ∀ n ∈ blankCodes, isAlphanumeric (Char.ofNat n) = false := by decide +kernel
  exact of_toNat_mem (P := (isAlphanumeric · = false)) (toNat_mem_blankCodes h) hcodes

theorem isBlank_eq_false_of_isDigit {c : Char} (h : c.isDigit = true) : isBlank c = false := by
  have hcodes : ∀ n ∈ blankCodes, (Char.ofNat n).isDigit = false := by decide +kernel
  by_contra hblank
  have hdigit : c.isDigit = false :=
    of_toNat_mem (P := (·.isDigit = false)) (toNat_mem_blankCodes (by simpa using hblank)) hcodes
  exact Bool.false_ne_true (hdigit.symm.trans h)

theorem dropWhile_eq_self_of_head? (h : ∀ c ∈ cs.head?, p c = false) : cs.dropWhile p = cs := by
  cases cs with
  | nil => rfl
  | cons c cs => simp [h c rfl]

/-- A text is what is left of it when characters that it neither begins nor ends with are put around
it and taken off again. -/
theorem stripWhere_padded (hbefore : ∀ c ∈ before, p c = true) (hbehind : ∀ c ∈ behind, p c = true)
    (hne : cs ≠ []) (hfirst : ∀ c ∈ cs.head?, p c = false)
    (hlast : ∀ c ∈ cs.getLast?, p c = false) : stripWhere p (before ++ cs ++ behind) = cs := by
  -- Each of the two passes stops at the text, at its first character and at its last.
  have hfront : (before ++ cs ++ behind).dropWhile p = cs ++ behind := by
    rw [List.append_assoc, List.dropWhile_append_of_pos hbefore]
    exact dropWhile_eq_self_of_head? (by simpa [List.head?_append_of_ne_nil, hne] using hfirst)
  have hback : (cs ++ behind).reverse.dropWhile p = cs.reverse := by
    rw [List.reverse_append, List.dropWhile_append_of_pos (by simpa using hbehind)]
    exact dropWhile_eq_self_of_head? (by simpa using hlast)
  rw [stripWhere, hfront, hback, List.reverse_reverse]

/-! ### Numbers -/

namespace Numeral

theorem value_map_toDigits (n : Nat) : value ((Nat.toDigits 10 n).map asciiDigitValue) = n := by
  rw [value, List.foldl_map]
  exact Nat.ofDigitChars_eq_foldl.symm.trans Nat.ofDigitChars_ten_toDigits

theorem toList_repr (n : Int) :
    n.repr.toList =
      if n < 0 then '-' :: Nat.toDigits 10 n.natAbs else Nat.toDigits 10 n.natAbs := by
  rw [Int.repr_eq_if]
  by_cases h : n < 0
  · have habs : (-n).toNat = n.natAbs := by omega
    simp [h, Int.not_le.mpr h, habs]
  · have habs : n.toNat = n.natAbs := by omega
    simp [h, Int.not_lt.mp h, habs]

theorem splitSign_of_isDigit (h : ∀ c ∈ cs.head?, c.isDigit = true) :
    splitSign cs = (false, cs) := by
  cases cs with
  | nil => rfl
  | cons c cs =>
    have hc : c.isDigit = true := h c rfl
    have hminus : c ≠ '-' := by rintro rfl; contradiction
    have hplus : c ≠ '+' := by rintro rfl; contradiction
    simp [splitSign, hminus, hplus]

/-- A number is read from its decimal digits. -/
theorem strict?_repr (n : Int) :
    strict? n.repr.toList =
      some (decide (n < 0), (Nat.toDigits 10 n.natAbs).map asciiDigitValue) := by
  have hdigits : ∀ c ∈ Nat.toDigits 10 n.natAbs, c.isDigit = true := fun c =>
    Nat.isDigit_of_mem_toDigits (by decide) (by decide)
  have hsign : splitSign n.repr.toList = (decide (n < 0), Nat.toDigits 10 n.natAbs) := by
    rw [toList_repr]
    by_cases h : n < 0
    · simp [h, splitSign]
    · simpa [h] using splitSign_of_isDigit fun c hc => hdigits c (List.mem_of_mem_head? hc)
  have hall : (Nat.toDigits 10 n.natAbs).all isAsciiDigit = true := List.all_eq_true.mpr hdigits
  simp [strict?, hsign, hall, Nat.toDigits_ne_nil]

end Numeral

/-! ### Values -/

namespace Value

/-- A literal: characters between two delimiters. -/
def quoted (quote : Char) (inner : List Char) : List Char :=
  quote :: (inner ++ [quote])

/-- A literal begins and ends with its delimiter. -/
theorem eq_of_end_quoted {quote c : Char} {inner : List Char}
    (h : c ∈ (quoted quote inner).head? ∨ c ∈ (quoted quote inner).getLast?) : c = quote := by
  rw [quoted, ← List.cons_append, List.getLast?_concat] at h
  rcases h with h | h <;> exact (Option.some.inj h).symm

theorem literal?_quoted (quote : Char) (inner : List Char) :
    literal? quote (inner ++ [quote]) = some (String.ofList inner) := by
  simp [literal?]

/-- The spelling of a value. -/
def printed : Value → List Char
  | .string s => quoted '"' s.toList
  | .path p => quoted '#' p.text.toList
  | .number n => n.repr.toList

/-- The spelling of the value is one: its delimiter does not occur inside of it, and a number is
not too large. -/
def IsPrintable : Value → Prop
  | .string s => '"' ∉ s.toList
  | .path p => p.IsNormal ∧ '#' ∉ p.text.toList
  | .number n => minNumber ≤ n ∧ n ≤ maxNumber

instance : (v : Value) → Decidable v.IsPrintable
  | .string s => inferInstanceAs (Decidable ('"' ∉ s.toList))
  | .path p => inferInstanceAs (Decidable (p.IsNormal ∧ '#' ∉ p.text.toList))
  | .number n => inferInstanceAs (Decidable (minNumber ≤ n ∧ n ≤ maxNumber))

theorem isDigit_or_eq_minus_of_mem_printed {n : Int} {c : Char} (h : c ∈ (number n).printed) :
    c.isDigit = true ∨ c = '-' := by
  have hdigit : c ∈ Nat.toDigits 10 n.natAbs → c.isDigit = true :=
    Nat.isDigit_of_mem_toDigits (by decide) (by decide)
  rw [printed, Numeral.toList_repr] at h
  split at h
  · rcases List.mem_cons.mp h with rfl | hrest
    · exact .inr rfl
    · exact .inl (hdigit hrest)
  · exact .inl (hdigit h)

theorem printed_ne_nil (v : Value) : v.printed ≠ [] := by
  cases v with
  | string s => simp [printed, quoted]
  | path p => simp [printed, quoted]
  | number n =>
    rw [printed, Numeral.toList_repr]
    split <;> simp [Nat.toDigits_ne_nil]

theorem not_isBlank_number {n : Int} {c : Char} (h : c ∈ (number n).printed) :
    isBlank c = false := by
  rcases isDigit_or_eq_minus_of_mem_printed h with hdigit | rfl
  · exact isBlank_eq_false_of_isDigit hdigit
  · rfl

/-- The spelling of a value has no blanks at its ends. -/
theorem not_isBlank_end {v : Value} {c : Char}
    (h : c ∈ v.printed.head? ∨ c ∈ v.printed.getLast?) : isBlank c = false := by
  cases v with
  | string s =>
    rw [eq_of_end_quoted h]
    rfl
  | path p =>
    rw [eq_of_end_quoted h]
    rfl
  | number n => exact not_isBlank_number (h.elim List.mem_of_mem_head? List.mem_of_mem_getLast?)

theorem stripBlanks_printed (v : Value) (hbefore : ∀ c ∈ before, isBlank c = true)
    (hbehind : ∀ c ∈ behind, isBlank c = true) :
    stripBlanks (before ++ v.printed ++ behind) = v.printed :=
  stripWhere_padded hbefore hbehind v.printed_ne_nil (fun _ hc => not_isBlank_end (.inl hc))
    fun _ hc => not_isBlank_end (.inr hc)

theorem parseNumber_printed {n : Int} (h : (number n).IsPrintable) :
    parseNumber (number n).printed = .ok (.number n) := by
  obtain ⟨hmin, hmax⟩ := h
  -- A number in range has at most 19 digits, so that there are not too many to be read.
  have hlt : n.natAbs < Nat.pow 10 19 := by
    simp only [minNumber, maxNumber] at hmin hmax
    have : Nat.pow 10 19 = 10000000000000000000 := rfl
    omega
  have hlength : ¬ maxDigits < (Nat.toDigits 10 n.natAbs).length := by
    have := (Nat.length_toDigits_le_iff (by decide) (by decide)).mpr hlt
    simp only [maxDigits]
    omega
  have hsigned : Numeral.signed (decide (n < 0)) n.natAbs = n := by
    simp only [Numeral.signed, decide_eq_true_eq]
    split <;> omega
  simp [parseNumber, printed, Numeral.strict?_repr, Numeral.value_map_toDigits, hlength, hsigned,
    hmin, hmax]

/-- A value is read from its spelling, whatever blanks stand around it. -/
theorem ofPiece_printed {v : Value} (h : v.IsPrintable) (hbefore : ∀ c ∈ before, isBlank c = true)
    (hbehind : ∀ c ∈ behind, isBlank c = true) :
    ofPiece (before ++ v.printed ++ behind) = .ok v := by
  rw [ofPiece, stripBlanks_printed v hbefore hbehind]
  cases v with
  | string s => simp [printed, quoted, literal?_quoted]
  | path p => simp [printed, quoted, literal?_quoted, Path.parse_text h.1]
  | number n =>
    -- A numeral begins with neither of the delimiters.
    have hdelimiter (quote : Char) (rest : List Char) (hquote : ¬ quote.isDigit ∧ quote ≠ '-') :
        (number n).printed ≠ quote :: rest := by
      intro hprinted
      have := isDigit_or_eq_minus_of_mem_printed (n := n) (c := quote) (by simp [hprinted])
      simp_all
    have hread := parseNumber_printed h
    split
    · rename_i hnil
      exact absurd hnil (number n).printed_ne_nil
    · rename_i rest heq
      exact absurd heq (hdelimiter '"' rest (by decide))
    · rename_i rest heq
      exact absurd heq (hdelimiter '#' rest (by decide))
    · exact hread

end Value

end Transclude
