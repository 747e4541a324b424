import Transclude.Proofs.Printing.Argument
import Transclude.Proofs.Traversal

/-!
# Printed calls

A call is printed as its name and its arguments between parentheses. Reading the arguments means
cutting them at commas, and a comma cuts only where no literal is open. A spelling that opens no
literal without closing it and has no comma outside of one is whole: the cutting goes past it.

## Main definitions

* `ArgumentPieces.IsWhole` — characters that the cutting of an argument list goes past
* `PaddedValue` — an argument with blanks around it
* `PrintedCall` — a call as it is printed

## Main results

* `ArgumentPieces.isWhole_quoted`, `ArgumentPieces.isWhole_of_plain` — literals and characters
  without a meaning of their own are whole
* `ArgumentPieces.meant_split` — the pieces of an argument list are the arguments it is made of
* `Invocation.splitName_printed` — a name is read up to the opening parenthesis
* `PrintedCall.ofBody_body` — a call is read from what it is printed as
-/

namespace Transclude

variable {behind cs : List Char}

namespace ArgumentPieces

/-- The cutting of an argument list goes past the characters and is outside of a literal behind
them, if it was in front of them. -/
def IsWhole (cs : List Char) : Prop :=
  ∀ piece rest, splitFrom none piece (cs ++ rest) = splitFrom none (cs.reverse ++ piece) rest

/-- The character neither opens a literal nor ends an argument. -/
def IsPlain (c : Char) : Prop :=
  c ∉ ['"', '#', ')', ',']

theorem isWhole_nil : IsWhole [] := fun _ _ => rfl

theorem IsWhole.append {cs ds : List Char} (hcs : IsWhole cs) (hds : IsWhole ds) :
    IsWhole (cs ++ ds) := by
  intro piece rest
  rw [List.append_assoc, hcs, hds, List.reverse_append, List.append_assoc]

theorem isWhole_of_plain (h : ∀ c ∈ cs, IsPlain c) : IsWhole cs := by
  induction cs with
  | nil => exact isWhole_nil
  | cons c cs ih =>
    obtain ⟨hc, hcs⟩ := List.forall_mem_cons.mp h
    intro piece rest
    have hstep : splitFrom none piece (c :: (cs ++ rest)) =
        splitFrom none (c :: piece) (cs ++ rest) := by
      simp_all [splitFrom, IsPlain, isDelimiter]
    rw [List.cons_append, hstep, ih hcs, List.reverse_cons, List.append_assoc]
    rfl

/-- Within a literal, characters other than its delimiter are gone past. -/
theorem splitFrom_literal {quote : Char} {inner : List Char} (h : quote ∉ inner)
    (piece rest : List Char) :
    splitFrom (some quote) piece (inner ++ rest) =
      splitFrom (some quote) (inner.reverse ++ piece) rest := by
  induction inner generalizing piece with
  | nil => rfl
  | cons c inner ih =>
    obtain ⟨hc, hinner⟩ : quote ≠ c ∧ quote ∉ inner := by simpa using h
    simp [splitFrom, Ne.symm hc, ih hinner]

theorem isWhole_quoted {quote : Char} {inner : List Char} (hquote : isDelimiter quote = true)
    (h : quote ∉ inner) : IsWhole (Value.quoted quote inner) := by
  intro piece rest
  -- The delimiter opens the literal in front, and the same one closes it behind.
  have hopen : splitFrom none piece (quote :: (inner ++ quote :: rest)) =
      splitFrom (some quote) (quote :: piece) (inner ++ quote :: rest) := by
    simp [splitFrom, hquote]
  simp [Value.quoted, hopen, splitFrom_literal h, splitFrom]

/-- The pieces, with the one that the closing parenthesis ends. -/
def all (p : ArgumentPieces) : List (List Char) :=
  p.beforeCommas ++ p.last.toList

theorem all_split {cs : List Char} {others : List (List Char)}
    (h : ∀ ds ∈ cs :: others, IsWhole ds) :
    (split ([','].intercalate (cs :: others) ++ ')' :: behind)).all = cs :: others := by
  induction others generalizing cs with
  | nil =>
    have hcs := h cs (by simp)
    simp [split, hcs [], splitFrom, all, isDelimiter]
  | cons ds others ih =>
    obtain ⟨hcs, hothers⟩ := List.forall_mem_cons.mp h
    have hrest := ih hothers
    -- No literal is open behind the first argument, so the comma there ends it.
    have hcut : split ([','].intercalate (cs :: ds :: others) ++ ')' :: behind) =
        (split ([','].intercalate (ds :: others) ++ ')' :: behind)).cons cs := by
      simp [split, hcs [], splitFrom, isDelimiter]
    rw [hcut]
    simpa [all, cons] using hrest

/-- The pieces of an argument list are the arguments it is made of, none of which is empty. -/
theorem meant_split {arguments : List (List Char)} (hwhole : ∀ cs ∈ arguments, IsWhole cs)
    (hne : ∀ cs ∈ arguments, cs ≠ []) :
    (split ([','].intercalate arguments ++ ')' :: behind)).meant = arguments := by
  cases arguments with
  | nil => simp [split, splitFrom, meant, isDelimiter]
  | cons cs others =>
    have hall : (split ([','].intercalate (cs :: others) ++ ')' :: behind)).all = cs :: others :=
      all_split hwhole
    rw [meant, if_neg]
    · exact hall
    · -- Only an empty piece that stands alone is left out, and no argument is empty.
      intro hempty
      rw [hempty] at hall
      obtain ⟨rfl, -⟩ : cs = [] ∧ others = [] := by simpa [all, eq_comm] using hall
      exact hne [] (by simp) rfl

theorem isPlain_of_isBlank {c : Char} (h : isBlank c = true) : IsPlain c := by
  intro hc
  have hc : c = '"' ∨ c = '#' ∨ c = ')' ∨ c = ',' := by simpa using hc
  rcases hc with rfl | rfl | rfl | rfl <;> contradiction

theorem isPlain_of_mem_number {n : Int} {c : Char} (h : c ∈ (Value.number n).printed) :
    IsPlain c := by
  intro hc
  have hc : c = '"' ∨ c = '#' ∨ c = ')' ∨ c = ',' := by simpa using hc
  have hdigit := Value.isDigit_or_eq_minus_of_mem_printed h
  rcases hc with rfl | rfl | rfl | rfl <;> simp at hdigit

/-- The spelling of a value is whole, whatever stands between its delimiters. -/
theorem isWhole_printed {v : Value} (h : v.IsPrintable) : IsWhole v.printed := by
  cases v with
  | string s => exact isWhole_quoted (by decide) h
  | path p => exact isWhole_quoted (by decide) h.2
  | number n => exact isWhole_of_plain fun c => isPlain_of_mem_number

end ArgumentPieces

/-- An argument as it is printed: a value with blanks around it. -/
structure PaddedValue where
  before : List Char
  value : Value
  behind : List Char

namespace PaddedValue

/-- The value and the blanks. -/
def printed (a : PaddedValue) : List Char :=
  a.before ++ a.value.printed ++ a.behind

/-- What stands around the value is blank, and the spelling of the value is one. -/
structure IsPrintable (a : PaddedValue) : Prop where
  before : ∀ c ∈ a.before, isBlank c = true
  value : a.value.IsPrintable
  behind : ∀ c ∈ a.behind, isBlank c = true

instance (a : PaddedValue) : Decidable a.IsPrintable :=
  decidable_of_iff (a.before.all isBlank = true ∧ a.value.IsPrintable ∧ a.behind.all isBlank = true)
    ⟨fun ⟨hbefore, hvalue, hbehind⟩ =>
        ⟨List.all_eq_true.mp hbefore, hvalue, List.all_eq_true.mp hbehind⟩,
      fun ⟨hbefore, hvalue, hbehind⟩ =>
        ⟨List.all_eq_true.mpr hbefore, hvalue, List.all_eq_true.mpr hbehind⟩⟩

theorem printed_ne_nil (a : PaddedValue) : a.printed ≠ [] := by
  simp [printed, a.value.printed_ne_nil]

theorem IsPrintable.isWhole {a : PaddedValue} (h : a.IsPrintable) :
    ArgumentPieces.IsWhole a.printed := by
  have hbefore := ArgumentPieces.isWhole_of_plain fun c hc =>
    ArgumentPieces.isPlain_of_isBlank (h.before c hc)
  have hbehind := ArgumentPieces.isWhole_of_plain fun c hc =>
    ArgumentPieces.isPlain_of_isBlank (h.behind c hc)
  exact (hbefore.append (ArgumentPieces.isWhole_printed h.value)).append hbehind

end PaddedValue

namespace Invocation

/-- Blanks in front of a name are passed over. -/
theorem splitNameFrom_blanks {blanks : List Char} (h : ∀ c ∈ blanks, isBlank c = true)
    (name : List Char) : splitNameFrom name (blanks ++ cs) = splitNameFrom name cs := by
  induction blanks with
  | nil => rfl
  | cons c blanks ih =>
    obtain ⟨hc, hblanks⟩ := List.forall_mem_cons.mp h
    have hparenthesis : c ≠ '(' := by
      rintro rfl
      contradiction
    rw [List.cons_append, splitNameFrom]
    simp [isAlphanumeric_eq_false_of_isBlank hc, hparenthesis, hc, ih hblanks]

theorem splitNameFrom_name {name : List Char} (h : ∀ c ∈ name, isAlphanumeric c = true)
    (front : List Char) :
    splitNameFrom front (name ++ '(' :: cs) =
      .ok (some (String.ofList (front.reverse ++ name), cs)) := by
  induction name generalizing front with
  | nil =>
    have hparenthesis : isAlphanumeric '(' = false := by decide
    simp [splitNameFrom, hparenthesis]
  | cons c name ih =>
    obtain ⟨hc, hname⟩ := List.forall_mem_cons.mp h
    simp [splitNameFrom, hc, ih hname]

/-- A name is read up to the opening parenthesis, without the blanks in front of it. -/
theorem splitName_printed {blanks name : List Char} (hblanks : ∀ c ∈ blanks, isBlank c = true)
    (hname : ∀ c ∈ name, isAlphanumeric c = true) :
    splitName (blanks ++ (name ++ '(' :: cs)) = .ok (some (String.ofList name, cs)) := by
  rw [splitName, splitNameFrom_blanks hblanks, splitNameFrom_name hname]
  rfl

end Invocation

/-- A call as it is printed: blanks, a name, and arguments. -/
structure PrintedCall where
  before : List Char
  function : String
  arguments : List PaddedValue

namespace PrintedCall

/-- What stands between the braces. -/
def body (c : PrintedCall) : List Char :=
  c.before ++ (c.function.toList ++
    '(' :: ([','].intercalate (c.arguments.map PaddedValue.printed) ++ [')']))

/-- What the call asks for. -/
def invocation (c : PrintedCall) : Invocation :=
  ⟨c.function, c.arguments.map PaddedValue.value⟩

/-- What stands in front of the name is blank, the name is one, and so are the spellings of the
arguments. -/
structure IsPrintable (c : PrintedCall) : Prop where
  before : ∀ d ∈ c.before, isBlank d = true
  function : ∀ d ∈ c.function.toList, isAlphanumeric d = true
  arguments : ∀ a ∈ c.arguments, a.IsPrintable

instance (c : PrintedCall) : Decidable c.IsPrintable :=
  decidable_of_iff (c.before.all isBlank = true ∧ c.function.toList.all isAlphanumeric = true ∧
      ∀ a ∈ c.arguments, a.IsPrintable)
    ⟨fun ⟨hbefore, hfunction, harguments⟩ =>
        ⟨List.all_eq_true.mp hbefore, List.all_eq_true.mp hfunction, harguments⟩,
      fun ⟨hbefore, hfunction, harguments⟩ =>
        ⟨List.all_eq_true.mpr hbefore, List.all_eq_true.mpr hfunction, harguments⟩⟩

/-- A call is read from what it is printed as. -/
theorem ofBody_body {c : PrintedCall} (h : c.IsPrintable) :
    Invocation.ofBody c.body = .ok c.invocation := by
  have hsplit : Invocation.splitName c.body = .ok (some (String.ofList c.function.toList,
      [','].intercalate (c.arguments.map PaddedValue.printed) ++ [')'])) :=
    Invocation.splitName_printed h.before h.function
  have hwhole : ∀ cs ∈ c.arguments.map PaddedValue.printed, ArgumentPieces.IsWhole cs := by
    intro cs hcs
    obtain ⟨a, ha, rfl⟩ := List.mem_map.mp hcs
    exact (h.arguments a ha).isWhole
  have hne : ∀ cs ∈ c.arguments.map PaddedValue.printed, cs ≠ [] := by
    intro cs hcs
    obtain ⟨a, -, rfl⟩ := List.mem_map.mp hcs
    exact a.printed_ne_nil
  have hread : (c.arguments.map PaddedValue.printed).mapM Value.ofPiece =
      .ok (c.arguments.map PaddedValue.value) := by
    rw [mapM_eq_ok_iff, List.forall₂_map_left_iff, List.forall₂_map_right_iff, List.forall₂_same]
    intro a ha
    obtain ⟨hbefore, hvalue, hbehind⟩ := h.arguments a ha
    exact Value.ofPiece_printed hvalue hbefore hbehind
  rw [Invocation.ofBody, hsplit]
  simp only [ArgumentPieces.meant_split hwhole hne, hread, Except.map, String.ofList_toList]
  rfl

end PrintedCall

end Transclude
