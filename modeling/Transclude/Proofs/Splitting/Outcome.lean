import Transclude.Proofs.Splitting.Misspelling

/-!
# What reading comes to

An argument is read or it is a fault, and a source is read as a document or fails with a fault that
is located in it. The only exception is a numeral of more digits than are ever converted: as an
argument, and as an argument of a closed call in a source, it breaks off the run.

## Main results

* `Document.parse_cases` — what reading a source comes to
* `Value.parse_by_value` — what reading an argument comes to, and that its value decides it
-/

namespace Transclude

open Numeral Splitting

/-- The misspelled call is one of the closed calls. -/
theorem Splitting.Misspells.mem_bodies {s : Splitting} {before body : List Char}
    {failure : Failure SpellingFault} (h : s.Misspells before body failure) : body ∈ s.bodies := by
  induction h with
  | here _ => exact List.mem_cons_self
  | behind _ _ ih => exact List.mem_cons_of_mem _ ih

/-- A source is read as a document, or fails with an error of spelling that is located in it, or
holds a numeral of too many digits. -/
theorem Document.parse_cases (source : String) (origin : Path) :
    (∃ d, parse source origin = .ok d) ∨
      (∃ fault span, parse source origin =
        .error (.reported (.simple (.spelling fault) ⟨some ⟨origin, some span, source⟩, []⟩))) ∨
      ∃ body ∈ (leftmost source.toList).bodies, ∃ count, Invocation.BreaksOff body count ∧
        parse source origin = .error (.aborted (.oversizedNumeral count)) := by
  cases hparse : parse source origin with
  | ok d => exact .inl ⟨d, rfl⟩
  | error failure =>
    obtain ⟨before, body, fault | abort, hmisspells, rfl⟩ := parse_eq_error_iff.mp hparse
    · exact .inr (.inl ⟨fault, Span.behind before (braced body), rfl⟩)
    · obtain ⟨count, hbreaks, rfl⟩ := Invocation.breaksOff_of_ofBody hmisspells.ofBody_eq
      exact .inr (.inr ⟨body, hmisspells.mem_bodies, count, hbreaks, rfl⟩)

/-- **Numerals are decided by their value.** Reading an argument gives a value or reports a fault
exactly if it is not a numeral of too many digits, which breaks off the run. Any other numeral is
read as the number that it writes if that number is in range; if not, or if a bare argument is no
numeral, it is reported as it stands between the blanks. So a source is read as a document, or fails
with an error of spelling that is located in it, unless it holds such a numeral. -/
theorem Value.parse_by_value (piece source : String) (origin : Path) :
    ((∃ value, parse piece = .ok value) ∨ (∃ fault, parse piece = .error (.reported fault)) ↔
      ¬ ∃ count, BreaksOff piece.toList count) ∧
    (∀ count, BreaksOff piece.toList count →
      parse piece = .error (.aborted (.oversizedNumeral count))) ∧
    (∀ digits n, Writes (stripBlanks piece.toList) digits n → digits.length ≤ maxDigits →
      parse piece =
        if minNumber ≤ n ∧ n ≤ maxNumber then .ok (.number n)
        else .error (.reported (.invalidInteger (String.ofList (stripBlanks piece.toList))))) ∧
    (stripBlanks piece.toList ≠ [] →
      (∀ c ∈ (stripBlanks piece.toList).head?, c ≠ '"' ∧ c ≠ '#') →
      (¬ ∃ digits n, Writes (stripBlanks piece.toList) digits n) →
        parse piece =
          .error (.reported (.invalidInteger (String.ofList (stripBlanks piece.toList))))) ∧
    ((∃ d, Document.parse source origin = .ok d) ∨
      (∃ fault span, Document.parse source origin =
        .error (.reported (.simple (.spelling fault) ⟨some ⟨origin, some span, source⟩, []⟩))) ∨
      ∃ body ∈ (leftmost source.toList).bodies, ∃ count, Invocation.BreaksOff body count ∧
        Document.parse source origin = .error (.aborted (.oversizedNumeral count))) := by
  refine ⟨⟨?_, ?_⟩, fun count => ofPiece_of_breaksOff, fun digits n => ofPiece_of_writes,
    ofPiece_of_not_writes, Document.parse_cases source origin⟩
  · rintro hanswered ⟨count, hbreaks⟩
    rw [parse, ofPiece_of_breaksOff hbreaks] at hanswered
    simp at hanswered
  · intro hnone
    cases hparse : parse piece with
    | ok value => exact .inl ⟨value, rfl⟩
    | error failure =>
      cases failure with
      | reported fault => exact .inr ⟨fault, rfl⟩
      | aborted abort =>
        obtain ⟨count, hbreaks, -⟩ := breaksOff_of_ofPiece hparse
        exact absurd ⟨count, hbreaks⟩ hnone

/-- The least number behind zeros, between blanks, and the number that is one too great. -/
theorem Value.parse_by_value_atBounds :
    parse " -0009223372036854775808\n" = .ok (.number minNumber) ∧
      parse "+9223372036854775808" =
        .error (.reported (.invalidInteger "+9223372036854775808")) := by
  have hleast : Writes (stripBlanks " -0009223372036854775808\n".toList)
      "0009223372036854775808".toList minNumber := .minus (isDecimal_iff.mpr ⟨by decide, rfl⟩)
  have hgreat : Writes (stripBlanks "+9223372036854775808".toList)
      "9223372036854775808".toList 9223372036854775808 :=
    .plus (isDecimal_iff.mpr ⟨by decide, rfl⟩)
  obtain ⟨-, -, hvalue, -⟩ := parse_by_value " -0009223372036854775808\n" "" .here
  obtain ⟨-, -, hvalue', -⟩ := parse_by_value "+9223372036854775808" "" .here
  exact ⟨hvalue _ _ hleast (by decide), hvalue' _ _ hgreat (by decide)⟩

/-- A numeral that writes zero is in range, and yet it is neither read nor reported: it has too many
digits. -/
theorem Value.not_parse_of_writes_zero :
    Writes (stripBlanks (String.ofList excessiveZeros).toList) excessiveZeros 0 ∧
      minNumber ≤ 0 ∧ 0 ≤ maxNumber ∧
      ¬ ((∃ value, parse (String.ofList excessiveZeros) = .ok value) ∨
        ∃ fault, parse (String.ofList excessiveZeros) = .error (.reported fault)) := by
  have hwrites : Writes (stripBlanks (String.ofList excessiveZeros).toList) excessiveZeros 0 := by
    rw [String.toList_ofList, stripBlanks_excessiveZeros]
    exact writes_excessiveZeros
  have hcount : maxDigits < excessiveZeros.length := by
    rw [excessiveZeros, List.length_replicate]
    exact Nat.lt_succ_self maxDigits
  refine ⟨hwrites, by decide, by decide, ?_⟩
  rw [parse, ofPiece_of_lt_length hwrites hcount]
  simp

end Transclude
