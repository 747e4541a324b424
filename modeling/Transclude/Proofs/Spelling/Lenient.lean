import Mathlib.Data.List.TakeWhile
import Mathlib.Data.Nat.Digits.Lemmas
import Transclude.Proofs.Printing.Argument
import Transclude.Settings.Depth

/-!
# Numerals that people type

A setting that is given as a string has to be a whole number as people type it: blanks around it,
perhaps a sign, and digits of any script, with an underscore between two of them where one likes.
Reading such a string gives the number that its digits write, unless there are too many of them; and
no other string gives a number.

## Main definitions

* `Numeral.SpellsDigits` — digits with single underscores between them
* `Numeral.Spells` — a text spells a number in lenient form

## Main results

* `Numeral.value_eq_ofDigits` — the number that digits write
* `Numeral.spacedDigits?_eq_some_iff` — the digits are read where there are digits
* `parseInteger?_eq_some_iff` — a string gives a number exactly if it spells it
-/

namespace Transclude

variable {p : Char → Bool} {cs : List Char} {digits : List Nat} {n : Int} {c : Char}

/-- What is taken off a text at its two ends is there. -/
theorem exists_eq_append_stripWhere (p : Char → Bool) (cs : List Char) :
    ∃ before behind, cs = before ++ stripWhere p cs ++ behind ∧
      (∀ c ∈ before, p c = true) ∧ ∀ c ∈ behind, p c = true := by
  have hfront := List.takeWhile_append_dropWhile (p := p) (l := cs)
  have hback := List.takeWhile_append_dropWhile (p := p) (l := (cs.dropWhile p).reverse)
  have hrest : stripWhere p cs ++ ((cs.dropWhile p).reverse.takeWhile p).reverse =
      cs.dropWhile p := by
    rw [stripWhere, ← List.reverse_append, hback, List.reverse_reverse]
  refine ⟨cs.takeWhile p, ((cs.dropWhile p).reverse.takeWhile p).reverse, ?_,
    fun c => List.mem_takeWhile_imp, fun c hc => List.mem_takeWhile_imp (List.mem_reverse.mp hc)⟩
  rw [List.append_assoc, hrest, hfront]

namespace Numeral

/-- Digits of any script, with single underscores between some of them, and their values. -/
inductive SpellsDigits : List Char → List Nat → Prop
  | single {c digit} (hdigit : digitValue? c = some digit) : SpellsDigits [c] [digit]
  | next {c digit cs digits} (hdigit : digitValue? c = some digit)
      (hrest : SpellsDigits cs digits) : SpellsDigits (c :: cs) (digit :: digits)
  | spaced {c digit cs digits} (hdigit : digitValue? c = some digit)
      (hrest : SpellsDigits cs digits) : SpellsDigits (c :: '_' :: cs) (digit :: digits)

/-- A text spells a number: digits, not too many of them, behind a sign if one likes, and with
blanks around. -/
inductive Spells : List Char → Int → Prop
  | intro {before sign spelled behind digits} (hbefore : ∀ c ∈ before, isPadding c = true)
      (hsign : sign = [] ∨ sign = ['+'] ∨ sign = ['-']) (hdigits : SpellsDigits spelled digits)
      (hfew : digits.length ≤ maxDigits) (hbehind : ∀ c ∈ behind, isPadding c = true) :
      Spells (before ++ (sign ++ spelled) ++ behind)
        (if sign = ['-'] then -(Nat.ofDigits 10 digits.reverse : Nat)
          else (Nat.ofDigits 10 digits.reverse : Nat))

/-- The number that digits write, with the highest one first. -/
theorem value_eq_ofDigits (digits : List Nat) : value digits = Nat.ofDigits 10 digits.reverse := by
  rw [Nat.ofDigits_eq_foldr, List.foldr_reverse, value]
  simp only [Nat.add_comm, Nat.cast_id]

/-- No blank is a digit. -/
theorem isPadding_eq_false_of_digitValue? {digit : Nat} (h : digitValue? c = some digit) :
    isPadding c = false := by
  have hcodes : ∀ n ∈ blankCodes, digitValue? (Char.ofNat n) = none := by decide +kernel
  by_contra hpadding
  have hblank : isBlank c = true := by
    simp only [isPadding, Bool.not_eq_false, Bool.and_eq_true] at hpadding
    exact hpadding.1
  have hnone : digitValue? c = none :=
    of_toNat_mem (P := (digitValue? · = none)) (toNat_mem_blankCodes hblank) hcodes
  rw [hnone] at h
  cases h

/-- Neither the signs nor the underscore are digits. -/
theorem ne_of_digitValue? {digit : Nat} (h : digitValue? c = some digit) :
    c ≠ '-' ∧ c ≠ '+' ∧ c ≠ '_' := by
  have hminus : digitValue? '-' = none := by decide +kernel
  have hplus : digitValue? '+' = none := by decide +kernel
  have hunderscore : digitValue? '_' = none := by decide +kernel
  refine ⟨?_, ?_, ?_⟩ <;> rintro rfl
  · simp [hminus] at h
  · simp [hplus] at h
  · simp [hunderscore] at h

namespace SpellsDigits

theorem exists_head (h : SpellsDigits cs digits) :
    ∃ c rest digit, cs = c :: rest ∧ digitValue? c = some digit := by
  cases h with
  | single hdigit | next hdigit _ | spaced hdigit _ => exact ⟨_, _, _, rfl, hdigit⟩

theorem exists_last (h : SpellsDigits cs digits) :
    ∃ c digit, cs.getLast? = some c ∧ digitValue? c = some digit := by
  induction h with
  | single hdigit => exact ⟨_, _, rfl, hdigit⟩
  | next _ _ ih | spaced _ _ ih =>
    obtain ⟨c, digit, hlast, hdigit⟩ := ih
    exact ⟨c, digit, by simp [List.getLast?_cons, hlast], hdigit⟩

end SpellsDigits

/-- Digits are read where there are digits, and nowhere else. -/
theorem spacedDigits?_eq_some_iff : spacedDigits? cs = some digits ↔ SpellsDigits cs digits := by
  constructor
  · intro h
    fun_induction spacedDigits? cs generalizing digits with
    | case1 => cases h
    | case2 c =>
      obtain ⟨digit, hdigit, rfl⟩ := Option.map_eq_some_iff.mp h
      exact .single hdigit
    | case3 c rest ih =>
      obtain ⟨digit, hdigit, h⟩ := Option.bind_eq_some_iff.mp h
      obtain ⟨others, hothers, h⟩ := Option.bind_eq_some_iff.mp h
      cases h
      exact .spaced hdigit (ih hothers)
    | case4 c rest _ _ ih =>
      obtain ⟨digit, hdigit, h⟩ := Option.bind_eq_some_iff.mp h
      obtain ⟨others, hothers, h⟩ := Option.bind_eq_some_iff.mp h
      cases h
      exact .next hdigit (ih hothers)
  · intro h
    induction h with
    | single hdigit => simp [spacedDigits?, hdigit]
    | spaced hdigit _ ih => simp [spacedDigits?, hdigit, ih]
    | next hdigit hrest ih =>
      -- What stands behind begins with a digit, so that there is no underscore.
      obtain ⟨c, rest, digit, rfl, hc⟩ := hrest.exists_head
      rw [spacedDigits?]
      · simp [hdigit, ih]
      · simp
      · rintro _ ⟨⟩
        exact (ne_of_digitValue? hc).2.2 rfl

/-- The sign is taken off, and the digits are left. -/
theorem splitSign_append {sign : List Char} (hsign : sign = [] ∨ sign = ['+'] ∨ sign = ['-'])
    (h : SpellsDigits cs digits) : splitSign (sign ++ cs) = (decide (sign = ['-']), cs) := by
  rcases hsign with rfl | rfl | rfl
  · obtain ⟨c, rest, digit, rfl, hdigit⟩ := h.exists_head
    obtain ⟨hminus, hplus, -⟩ := ne_of_digitValue? hdigit
    simp [splitSign, hminus, hplus]
  · rfl
  · rfl

/-- A sign in front of digits is what a sign is taken off. -/
theorem exists_sign_of_splitSign (cs : List Char) :
    ∃ sign, (sign = [] ∨ sign = ['+'] ∨ sign = ['-']) ∧ cs = sign ++ (splitSign cs).2 ∧
      (splitSign cs).1 = decide (sign = ['-']) := by
  unfold splitSign
  split
  · exact ⟨['-'], by simp, rfl, rfl⟩
  · exact ⟨['+'], by simp, rfl, rfl⟩
  · exact ⟨[], by simp, rfl, rfl⟩

/-- A text in lenient form is read by its sign and its digits. -/
theorem lenient?_eq_some_iff {negative : Bool} : lenient? cs = some (negative, digits) ↔
    ∃ before sign spelled behind, cs = before ++ (sign ++ spelled) ++ behind ∧
      (∀ c ∈ before, isPadding c = true) ∧ (sign = [] ∨ sign = ['+'] ∨ sign = ['-']) ∧
      negative = decide (sign = ['-']) ∧ SpellsDigits spelled digits ∧
      ∀ c ∈ behind, isPadding c = true := by
  constructor
  · intro h
    obtain ⟨before, behind, hcs, hbefore, hbehind⟩ := exists_eq_append_stripWhere isPadding cs
    obtain ⟨sign, hsign, hstripped, hnegative⟩ :=
      exists_sign_of_splitSign (stripWhere isPadding cs)
    have hlenient : lenient? cs = (spacedDigits? (splitSign (stripWhere isPadding cs)).2).map
        ((splitSign (stripWhere isPadding cs)).1, ·) := rfl
    obtain ⟨read, hread, h⟩ := Option.map_eq_some_iff.mp (hlenient.symm.trans h)
    obtain ⟨rfl, rfl⟩ := Prod.mk.inj h
    refine ⟨before, sign, _, behind, ?_, hbefore, hsign, hnegative,
      spacedDigits?_eq_some_iff.mp hread, hbehind⟩
    rw [← hstripped]
    exact hcs
  · rintro ⟨before, sign, spelled, behind, rfl, hbefore, hsign, rfl, hdigits, hbehind⟩
    have hstripped : stripWhere isPadding (before ++ (sign ++ spelled) ++ behind) =
        sign ++ spelled := by
      obtain ⟨first, rest, digit, hspelled, hfirst⟩ := hdigits.exists_head
      obtain ⟨last, digit', hlast, hdigit⟩ := hdigits.exists_last
      apply stripWhere_padded hbefore hbehind
      · simp [hspelled]
      · rcases hsign with rfl | rfl | rfl
        · simpa [hspelled] using isPadding_eq_false_of_digitValue? hfirst
        · simpa using by decide
        · simpa using by decide
      · simpa [List.getLast?_append, hlast] using isPadding_eq_false_of_digitValue? hdigit
    rw [lenient?, hstripped, splitSign_append hsign hdigits]
    simp [spacedDigits?_eq_some_iff.mpr hdigits]

end Numeral

/-- A string gives a number exactly if it spells it. -/
theorem parseInteger?_eq_some_iff {s : String} :
    parseInteger? s = some n ↔ Numeral.Spells s.toList n := by
  constructor
  · intro h
    unfold parseInteger? at h
    split at h
    · rename_i negative digits hlenient
      split at h
      · rename_i hfew
        obtain ⟨before, sign, spelled, behind, hs, hbefore, hsign, rfl, hdigits, hbehind⟩ :=
          Numeral.lenient?_eq_some_iff.mp hlenient
        obtain rfl := Option.some.inj h
        have hspells := Numeral.Spells.intro hbefore hsign hdigits hfew hbehind
        rw [hs, Numeral.value_eq_ofDigits, Numeral.signed]
        simpa using hspells
      · cases h
    · cases h
  · intro h
    generalize hcs : s.toList = cs at h
    cases h with
    | intro hbefore hsign hdigits hfew hbehind =>
      have hlenient := Numeral.lenient?_eq_some_iff.mpr
        ⟨_, _, _, _, hcs, hbefore, hsign, rfl, hdigits, hbehind⟩
      simp [parseInteger?, hlenient, hfew, Numeral.signed, Numeral.value_eq_ofDigits]

end Transclude
