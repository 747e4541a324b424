import Transclude.Toml.Document

/-!
# What breaks off reading a document

A document that is not written as the format asks for is reported. Only two things break off the
reading without being reported: values that stand within one another too deeply, and a number with
too many digits. The readers are built from one another, so it is shown of each of them that it adds
nothing else.

## Main definitions

* `Toml.Obstacle` — what keeps a document from being read without being reported
* `Toml.IsAnswered` — a result that nothing else has broken off

## Main results

* `Toml.isAnswered_valueWithin` — values, arrays and tables, by induction on the steps
* `Toml.isAnswered_parse` — nothing else breaks off the reading of a document
-/

namespace Transclude.Toml

/-- What keeps a document from being read without being reported. -/
inductive Obstacle : Abort → Prop
  | nesting : Obstacle .deepNesting
  | numeral {digits} (hmany : maxDigits < digits) : Obstacle (.oversizedNumeral digits)

/-- The result is broken off by such an obstacle if it is broken off at all. -/
def IsAnswered {α : Type} (result : Except (Failure Fault) α) : Prop :=
  ∀ abort, result = .error (.aborted abort) → Obstacle abort

variable {α β : Type} {cs : List Char} {multiline : Bool} {read rest : List Char}

@[simp] theorem isAnswered_ok (a : α) : IsAnswered (.ok a) := nofun

@[simp] theorem isAnswered_reported (fault : Fault) :
    IsAnswered (.error (.reported fault) : Except _ α) := nofun

@[simp] theorem isAnswered_malformed : IsAnswered (malformed : Except _ α) := nofun

@[simp] theorem isAnswered_nesting :
    IsAnswered (.error (.aborted .deepNesting) : Except (Failure Fault) α) := by
  rintro _ ⟨⟩
  exact .nesting

theorem IsAnswered.bind {first : Except (Failure Fault) α} {next : α → Except (Failure Fault) β}
    (h : IsAnswered first) (hnext : ∀ a, IsAnswered (next a)) : IsAnswered (first >>= next) := by
  cases first with
  | ok a => exact hnext a
  | error failure =>
    rintro _ ⟨⟩
    exact h _ rfl

theorem IsAnswered.map {result : Except (Failure Fault) α} (h : IsAnswered result) (f : α → β) :
    IsAnswered (result.map f) := by
  cases result with
  | ok a => exact isAnswered_ok (f a)
  | error failure =>
    rintro _ ⟨⟩
    exact h _ rfl

theorem isAnswered_basicString {trimming : Trimming} :
    IsAnswered (basicString multiline trimming read cs) := by
  -- What is read on is answered by hypothesis; all other ends are a result or a malformed part.
  fun_induction basicString multiline trimming read cs <;> try assumption
  all_goals simp

theorem isAnswered_literalString : IsAnswered (literalString multiline read cs) := by
  fun_induction literalString multiline read cs <;> try assumption
  all_goals simp

theorem isAnswered_multilineString {quote : Char} {body : Reader (List Char)}
    (hbody : ∀ cs, IsAnswered (body cs)) : IsAnswered (multilineString quote body cs) :=
  (hbody _).bind fun _ => isAnswered_ok _

theorem isAnswered_string : IsAnswered (string cs) := by
  unfold string
  split
  · exact isAnswered_multilineString fun _ => isAnswered_basicString
  · exact isAnswered_basicString
  · exact isAnswered_multilineString fun _ => isAnswered_literalString
  · exact isAnswered_literalString
  · exact isAnswered_malformed

/-- A decimal number breaks off the reading if it has too many digits. -/
theorem isAnswered_of_decimalNumber? {value : Except (Failure Fault) Setting}
    (h : decimalNumber? cs = some (value, rest)) : IsAnswered value := by
  unfold decimalNumber? at h
  obtain ⟨⟨whole, behind⟩, -, h⟩ := Option.bind_eq_some_iff.mp h
  dsimp only at h
  split at h
  · split at h
    · rename_i hmany
      cases h
      rintro _ ⟨⟩
      exact .numeral hmany
    · cases h
      exact isAnswered_ok _
  · cases h
    exact isAnswered_ok _

theorem isAnswered_number : IsAnswered (number cs) := by
  unfold number
  split
  · exact isAnswered_ok _
  · rename_i hdecimal
    exact (isAnswered_of_decimalNumber? hdecimal).map _
  · exact isAnswered_ok _
  · exact isAnswered_malformed

theorem isAnswered_of_moment? {moment : Except (Failure Fault) Moment}
    (h : moment? cs = some (moment, rest)) : IsAnswered moment := by
  unfold moment? at h
  split at h
  · obtain ⟨_, -, h⟩ := Option.map_eq_some_iff.mp h
    cases h
    exact isAnswered_ok _
  · cases h
    split
    · exact isAnswered_ok _
    · exact isAnswered_malformed

theorem isAnswered_scalar : IsAnswered (scalar cs) := by
  unfold scalar
  split
  · exact isAnswered_string.bind fun _ => isAnswered_ok _
  · exact isAnswered_string.bind fun _ => isAnswered_ok _
  · exact isAnswered_ok _
  · exact isAnswered_ok _
  split
  · rename_i hmoment
    exact (isAnswered_of_moment? hmoment).map _
  · exact isAnswered_number

theorem isAnswered_keyName : IsAnswered (keyName cs) := by
  unfold keyName
  split
  · exact isAnswered_basicString.bind fun _ => isAnswered_ok _
  · exact isAnswered_literalString.bind fun _ => isAnswered_ok _
  split
  · exact isAnswered_malformed
  · exact isAnswered_ok _

theorem isAnswered_keyNames (fuel : Nat) : IsAnswered (keyNames fuel cs) := by
  induction fuel generalizing cs with
  | zero => exact isAnswered_malformed
  | succ fuel ih =>
    unfold keyNames
    refine isAnswered_keyName.bind fun (name, rest) => ?_
    dsimp only
    split
    · exact ih.bind fun _ => isAnswered_ok _
    · exact isAnswered_ok _

theorem isAnswered_skipComment : IsAnswered (skipComment cs) := by
  unfold skipComment
  split
  · split
    · exact isAnswered_malformed
    · exact isAnswered_ok _
  · exact isAnswered_ok _

theorem isAnswered_skipLayout (fuel : Nat) : IsAnswered (skipLayout fuel cs) := by
  induction fuel generalizing cs with
  | zero => exact isAnswered_ok _
  | succ fuel ih =>
    unfold skipLayout
    split
    · exact isAnswered_skipComment.bind fun _ => ih
    · exact isAnswered_ok _

theorem isAnswered_keyAndSign : IsAnswered (keyAndSign cs) := by
  refine (isAnswered_keyNames _).bind fun (names, rest) => ?_
  dsimp only
  split
  · exact isAnswered_ok _
  · exact isAnswered_malformed

/-- Values, the items of arrays and the entries of tables break off the reading if they nest too
deeply. -/
theorem isAnswered_valueWithin (fuel : Nat) :
    (∀ room cs, IsAnswered (valueWithin fuel room cs)) ∧
      (∀ room cs, IsAnswered (arrayItems fuel room cs)) ∧
      ∀ room t cs, IsAnswered (inlineEntries fuel room t cs) := by
  -- The three readers call one another with less fuel, so one induction carries them all.
  induction fuel with
  | zero =>
    exact ⟨fun _ _ => isAnswered_malformed, fun _ _ => isAnswered_malformed,
      fun _ _ _ => isAnswered_malformed⟩
  | succ fuel ih =>
    obtain ⟨hvalue, hitems, hentries⟩ := ih
    refine ⟨?_, ?_, ?_⟩
    · intro room cs
      unfold valueWithin
      dsimp only
      split
      · split
        · exact isAnswered_nesting
        · exact (hitems _ _).bind fun _ => isAnswered_ok _
      · split
        · exact isAnswered_nesting
        · split
          · exact isAnswered_ok _
          · exact (hentries _ _ _).bind fun _ => isAnswered_ok _
      · exact isAnswered_scalar
    · intro room cs
      unfold arrayItems
      refine (isAnswered_skipLayout _).bind fun rest => ?_
      split
      · exact isAnswered_ok _
      · refine (hvalue _ _).bind fun (item, rest) => ?_
        refine (isAnswered_skipLayout _).bind fun rest => ?_
        split
        · exact isAnswered_ok _
        · exact (hitems _ _).bind fun _ => isAnswered_ok _
        · exact isAnswered_malformed
    · intro room t cs
      unfold inlineEntries
      refine isAnswered_keyAndSign.bind fun (names, rest) => ?_
      refine (hvalue _ _).bind fun (value, rest) => ?_
      dsimp only
      split
      · exact isAnswered_reported _
      · split
        · exact isAnswered_ok _
        · exact hentries _ _ _
        · exact isAnswered_malformed

theorem isAnswered_pair : IsAnswered (pair cs) :=
  isAnswered_keyAndSign.bind fun _ =>
    ((isAnswered_valueWithin _).1 _ _).bind fun _ => isAnswered_ok _

theorem isAnswered_tableHeader : IsAnswered (tableHeader cs) := by
  refine (isAnswered_keyNames _).bind fun (names, rest) => ?_
  dsimp only
  split
  · exact isAnswered_ok _
  · exact isAnswered_malformed

theorem isAnswered_arrayHeader : IsAnswered (arrayHeader cs) := by
  refine (isAnswered_keyNames _).bind fun (names, rest) => ?_
  dsimp only
  split
  · exact isAnswered_ok _
  · exact isAnswered_malformed

theorem isAnswered_line : IsAnswered (line cs) := by
  unfold line
  split
  · exact isAnswered_ok _
  · exact isAnswered_ok _
  · exact isAnswered_ok _
  · exact isAnswered_arrayHeader.bind fun _ => isAnswered_ok _
  · exact isAnswered_tableHeader.bind fun _ => isAnswered_ok _
  · exact isAnswered_pair.bind fun _ => isAnswered_ok _

theorem isAnswered_lines (fuel : Nat) (b : Builder) : IsAnswered (lines fuel b cs) := by
  induction fuel generalizing b cs with
  | zero => exact isAnswered_ok _
  | succ fuel ih =>
    unfold lines
    refine isAnswered_line.bind fun (said, rest) => ?_
    dsimp only
    split
    · exact isAnswered_reported _
    · refine isAnswered_skipComment.bind fun rest => ?_
      split
      · exact isAnswered_ok _
      · exact ih _
      · exact isAnswered_malformed

/-- Nothing else breaks off the reading of a document. -/
theorem isAnswered_parse (source : String) : IsAnswered (parse source) :=
  (isAnswered_lines _ _).bind fun _ => isAnswered_ok _

end Transclude.Toml
