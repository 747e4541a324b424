import Transclude.Proofs.Printing.Call

/-!
# The spelling of calls by regions

What is written between the braces of a call is told here without reading it character by
character. The name stands in front of the first opening parenthesis. Behind it there are literals,
each from a delimiter to the next same character, and commas and parentheses count where they stand
outside of all literals. The arguments are the pieces between such commas, up to the first such
closing parenthesis; a piece that neither ends is left out, and one that is empty and alone is no
argument.

## Main definitions

* `ArgumentPieces.markLiterals` — the characters of an argument list, with those in literals marked
* `ArgumentPieces.listed` — what stands between commas in front of the closing parenthesis
* `ArgumentPieces.ended` — the pieces that have to spell an argument
* `Invocation.described` — what a call spells, told by regions

## Main results

* `ArgumentPieces.split_eq` — an argument list is cut where its regions say
* `ArgumentPieces.meant_split_eq_ended` — the pieces with a meaning are those that are ended
* `ArgumentPieces.splitFrom_append` — nothing is read behind the closing parenthesis
* `Invocation.splitNameFrom_eq` — how the name is told
* `Invocation.parse_by_regions` — calls are read as their regions tell
-/

namespace Transclude

variable {c : Char} {cs rest list piece : List Char}

namespace ArgumentPieces

/-- The characters of an argument list, each with whether it belongs to a literal. Literals are
found from left to right; each one runs from a delimiter outside of all literals to the next same
character, or to the end if there is none. -/
def markLiterals : List Char → List (Char × Bool)
  | [] => []
  | c :: rest =>
    if isDelimiter c then
      (c :: rest.take (rest.idxOf c + 1)).map (·, true) ++
        markLiterals (rest.drop (rest.idxOf c + 1))
    else (c, false) :: markLiterals rest
termination_by cs => cs.length
decreasing_by all_goals simp; try omega

/-- A comma outside of all literals. -/
def comma : Char × Bool := (',', false)

/-- A closing parenthesis outside of all literals. -/
def closing : Char × Bool := (')', false)

/-- What stands between commas in front of the closing parenthesis, if there is one. -/
def listed (marked : List (Char × Bool)) : List (List Char) :=
  ((marked.takeWhile (· ≠ closing)).splitOn comma).map (·.map Prod.fst)

/-- The pieces that have to spell an argument: those that a comma or the closing parenthesis ends.
A single one that is empty does not count if it is the parenthesis that ends it. -/
def ended (cs : List Char) : List (List Char) :=
  let pieces := listed (markLiterals cs)
  if closing ∈ markLiterals cs then if pieces = [[]] then [] else pieces else pieces.dropLast

@[simp] theorem markLiterals_nil : markLiterals [] = [] := by
  rw [markLiterals]

theorem markLiterals_delimiter (h : isDelimiter c = true) :
    markLiterals (c :: rest) = (c :: rest.take (rest.idxOf c + 1)).map (·, true) ++
      markLiterals (rest.drop (rest.idxOf c + 1)) := by
  rw [markLiterals, if_pos h]

theorem markLiterals_plain (h : isDelimiter c = false) :
    markLiterals (c :: rest) = (c, false) :: markLiterals rest := by
  rw [markLiterals, h]
  rfl

section Listed

variable {marked inner : List (Char × Bool)} {m : Char × Bool} {front : List Char}

theorem listed_ne_nil (marked : List (Char × Bool)) : listed marked ≠ [] := by
  simp [listed]

@[simp] theorem listed_nil : listed [] = [[]] := by
  simp [listed]

@[simp] theorem listed_closing : listed (closing :: marked) = [[]] := by
  simp [listed]

@[simp] theorem listed_comma : listed (comma :: marked) = [] :: listed marked := by
  have hgoes : comma ≠ closing := by decide
  simp [listed, hgoes, List.splitOn_cons_eq_if_modifyHead]

theorem listed_cons (hclosing : m ≠ closing) (hcomma : m ≠ comma) :
    listed (m :: marked) = (listed marked).modifyHead (m.1 :: ·) := by
  rw [listed, List.takeWhile_cons_of_pos (by simpa using hclosing),
    List.splitOn_cons_eq_if_modifyHead, if_neg (by simpa using hcomma), listed]
  cases (marked.takeWhile (· ≠ closing)).splitOn comma <;> rfl

/-- What belongs to a literal neither ends an argument nor the list. -/
theorem listed_append (h : ∀ m ∈ inner, m.2 = true) :
    listed (inner ++ marked) = (listed marked).modifyHead (inner.map Prod.fst ++ ·) := by
  induction inner with
  | nil => cases hlisted : listed marked <;> simp [hlisted]
  | cons m inner ih =>
    obtain ⟨hm, hinner⟩ := List.forall_mem_cons.mp h
    -- The comma and the parenthesis that count are those outside of literals.
    have hclosing : m ≠ closing := by rintro rfl; cases hm
    have hcomma : m ≠ comma := by rintro rfl; cases hm
    rw [List.cons_append, listed_cons hclosing hcomma, ih hinner, List.modifyHead_modifyHead]
    rfl

/-- The pieces of an argument list, told by its marked characters. The characters `front` belong to
the first piece already. -/
def ofMarked (front : List Char) (marked : List (Char × Bool)) : ArgumentPieces :=
  let pieces := (listed marked).modifyHead (front ++ ·)
  ⟨pieces.dropLast, if closing ∈ marked then pieces.getLast? else none⟩

theorem ofMarked_nil (marked : List (Char × Bool)) :
    ofMarked [] marked = ⟨(listed marked).dropLast,
      if closing ∈ marked then (listed marked).getLast? else none⟩ := by
  have hfront : (listed marked).modifyHead ([] ++ ·) = listed marked := by
    cases listed marked <;> rfl
  rw [ofMarked, hfront]

theorem ofMarked_closing : ofMarked front (closing :: marked) = ⟨[], some front⟩ := by
  simp [ofMarked]

theorem ofMarked_comma :
    ofMarked front (comma :: marked) = (ofMarked [] marked).cons front := by
  have hgoes : closing ≠ comma := by decide
  have hne := listed_ne_nil marked
  rw [ofMarked_nil, ofMarked, listed_comma]
  simp [cons, hgoes, List.dropLast_cons_of_ne_nil hne, List.getLast?_cons_of_ne_nil hne]

theorem ofMarked_cons (hclosing : m ≠ closing) (hcomma : m ≠ comma) :
    ofMarked front (m :: marked) = ofMarked (front ++ [m.1]) marked := by
  simp [ofMarked, listed_cons hclosing hcomma, Ne.symm hclosing, Function.comp_def]

theorem ofMarked_append (h : ∀ m ∈ inner, m.2 = true) :
    ofMarked front (inner ++ marked) = ofMarked (front ++ inner.map Prod.fst) marked := by
  have hclosing : closing ∉ inner := fun hmem => by cases h _ hmem
  simp [ofMarked, listed_append h, hclosing, Function.comp_def]

end Listed

/-- Within a literal, the cutting goes on to the next delimiter or to the end. -/
theorem splitFrom_some_eq (c : Char) (piece rest : List Char) :
    splitFrom (some c) piece rest =
      splitFrom none ((rest.take (rest.idxOf c + 1)).reverse ++ piece)
        (rest.drop (rest.idxOf c + 1)) := by
  induction rest generalizing piece with
  | nil => rfl
  | cons d rest ih =>
    by_cases hd : d = c
    · subst hd
      simp [splitFrom]
    · have hidx : (d :: rest).idxOf c = rest.idxOf c + 1 := by simp [hd]
      rw [splitFrom, if_neg hd, ih, hidx]
      simp

/-- The cutting of an argument list goes from literal to literal, and between them from comma to
comma up to the first closing parenthesis. -/
theorem splitFrom_none_eq (piece cs : List Char) :
    splitFrom none piece cs = ofMarked piece.reverse (markLiterals cs) := by
  induction cs using markLiterals.induct generalizing piece with
  | case1 => simp [splitFrom, ofMarked]
  | case2 c rest hc ih =>
    -- The literal is gone past as a whole, whatever it holds.
    have hmarked : ∀ m ∈ (c :: rest.take (rest.idxOf c + 1)).map (·, true), m.2 = true :=
      List.forall_mem_map.mpr fun _ _ => rfl
    rw [splitFrom, if_pos hc, splitFrom_some_eq, ih, markLiterals_delimiter hc,
      ofMarked_append hmarked]
    simp [Function.comp_def]
  | case3 c rest hc ih =>
    rw [splitFrom, if_neg hc, markLiterals_plain (by simpa using hc)]
    split_ifs with hclosing hcomma
    · subst hclosing
      exact ofMarked_closing.symm
    · subst hcomma
      rw [ih]
      exact ofMarked_comma.symm
    · rw [ih, ofMarked_cons (by simp [closing, hclosing]) (by simp [comma, hcomma]),
        List.reverse_cons]

/-- An argument list is cut where its regions say. -/
theorem split_eq (cs : List Char) :
    split cs = ⟨(listed (markLiterals cs)).dropLast,
      if closing ∈ markLiterals cs then (listed (markLiterals cs)).getLast? else none⟩ := by
  rw [split, splitFrom_none_eq, List.reverse_nil, ofMarked_nil]

/-- The pieces with a meaning are those that a comma or the closing parenthesis ends. -/
theorem meant_split_eq_ended (cs : List Char) : (split cs).meant = ended cs := by
  rw [split_eq, meant, ended]
  by_cases hclosed : closing ∈ markLiterals cs
  · obtain ⟨pieces, last, hpieces⟩ : ∃ pieces last, listed (markLiterals cs) = pieces ++ [last] :=
      ⟨_, _, (List.dropLast_append_getLast (listed_ne_nil _)).symm⟩
    -- An empty piece is alone just if nothing stands in front of the last one, which is empty.
    have halone : pieces ++ [last] = [[]] ↔ pieces = [] ∧ last = [] := by
      cases pieces <;> simp
    simp [hclosed, hpieces, halone]
  · simp [hclosed]

/-- Nothing is read behind the closing parenthesis. -/
theorem splitFrom_append {literal : Option Char} (behind : List Char)
    (h : (splitFrom literal piece cs).last.isSome = true) :
    splitFrom literal piece (cs ++ behind) = splitFrom literal piece cs := by
  fun_induction splitFrom literal piece cs with
  | case1 => cases h
  | _ => simp_all [splitFrom, cons]

theorem isSome_last_split : (split cs).last.isSome = true ↔ closing ∈ markLiterals cs := by
  have hne := listed_ne_nil (markLiterals cs)
  by_cases hclosed : closing ∈ markLiterals cs <;> simp [split_eq, hclosed, hne]

/-- What follows the closing parenthesis has no part in the pieces. -/
theorem ended_append (h : closing ∈ markLiterals cs) (behind : List Char) :
    ended (cs ++ behind) = ended cs := by
  have hlast := isSome_last_split.mpr h
  rw [← meant_split_eq_ended, ← meant_split_eq_ended, split, splitFrom_append behind hlast, split]

end ArgumentPieces

open ArgumentPieces

namespace Invocation

/-- Whether a character can neither belong to a name nor stand beside it. -/
def isStrange (c : Char) : Bool :=
  !(isAlphanumeric c || isBlank c)

/-- What the characters between the braces of a call spell, told by regions. -/
def described (body : List Char) : Except (Failure SpellingFault) Invocation :=
  let front := body.takeWhile (· ≠ '(')
  match front.find? isStrange, body.dropWhile (· ≠ '(') with
  | some c, _ => .error (.reported (.invalidSymbol c.toString))
  | none, [] => .ok ⟨"", []⟩
  | none, _ :: list =>
    (ended list).mapM Value.ofPiece |>.map (⟨String.ofList (front.filter isAlphanumeric), ·⟩)

/-- The name is what is alphanumeric in front of the opening parenthesis. -/
theorem splitNameFrom_eq (name cs : List Char) :
    splitNameFrom name cs =
      match (cs.takeWhile (· ≠ '(')).find? isStrange, cs.dropWhile (· ≠ '(') with
      | some c, _ => .error (.invalidSymbol c.toString)
      | none, [] => .ok none
      | none, _ :: list =>
        .ok (some (String.ofList
          (name.reverse ++ (cs.takeWhile (· ≠ '(')).filter isAlphanumeric), list)) := by
  induction cs generalizing name with
  | nil => rfl
  | cons c cs ih =>
    by_cases hopen : c = '('
    · subst hopen
      have hopen : isAlphanumeric '(' = false := by decide
      simp [splitNameFrom, hopen]
    · rw [splitNameFrom, ih, ih]
      split_ifs with hname hblank
      · simp [hopen, hname, isStrange]
      · have hname : isAlphanumeric c = false := by simpa using hname
        simp [hopen, hname, hblank, isStrange]
      · simp [hopen, hname, hblank, isStrange]

/-- What is between the braces of a call is read as its regions tell. -/
theorem ofBody_eq_described (body : List Char) : ofBody body = described body := by
  rw [ofBody, splitName, splitNameFrom_eq, described]
  cases (body.takeWhile (· ≠ '(')).find? isStrange with
  | some c => rfl
  | none =>
    cases body.dropWhile (· ≠ '(') with
    | nil => rfl
    | cons c list => simp [meant_split_eq_ended]

/-- What follows the closing parenthesis has no part in the call. -/
theorem described_append {body : List Char} (hlist : body.dropWhile (· ≠ '(') = '(' :: list)
    (hclosing : closing ∈ markLiterals list) (behind : List Char) :
    described (body ++ behind) = described body := by
  obtain ⟨front, hfront, rfl⟩ : ∃ front : List Char,
      (∀ c ∈ front, decide (c ≠ '(') = true) ∧ body = front ++ '(' :: list := by
    refine ⟨body.takeWhile (· ≠ '('), List.all_eq_true.mp List.all_takeWhile, ?_⟩
    rw [← hlist, List.takeWhile_append_dropWhile]
  -- The first parenthesis is found at the same place, whatever stands behind it.
  have htake (rest : List Char) : (front ++ '(' :: rest).takeWhile (· ≠ '(') = front := by
    rw [List.takeWhile_append_of_pos hfront]
    simp
  have hdrop (rest : List Char) : (front ++ '(' :: rest).dropWhile (· ≠ '(') = '(' :: rest := by
    rw [List.dropWhile_append_of_pos hfront]
    simp
  rw [List.append_assoc, List.cons_append]
  simp only [described, htake, hdrop]
  cases front.find? isStrange with
  | some c => rfl
  | none => simp only [ended_append hclosing]

end Invocation

/-- A piece of blanks is not read as an argument. -/
theorem Value.ofPiece_of_blank (h : ∀ c ∈ piece, isBlank c = true) :
    ofPiece piece = .error (.reported .emptyArgument) := by
  have hfront : piece.dropWhile isBlank = [] := by
    simpa using @List.dropWhile_append_of_pos _ _ _ [] h
  have hstrip : stripBlanks piece = [] := by rw [stripBlanks, stripWhere, hfront]; rfl
  simp [ofPiece, hstrip]

/-- **Calls are read by regions.** What stands between the braces of a call is read as its regions
tell: the first strange character in front of the opening parenthesis is reported, and otherwise the
pieces that a comma or the closing parenthesis ends are read one by one. What follows the closing
parenthesis has no part in the call. The first piece that cannot be read is what a call fails with,
and a piece of blanks is none that can be read. -/
theorem Invocation.parse_by_regions (body : String) :
    parse body = described body.toList ∧
      (∀ (behind : String) (list : List Char), body.toList.dropWhile (· ≠ '(') = '(' :: list →
        closing ∈ markLiterals list → parse (body ++ behind) = parse body) ∧
      (∀ (list : List Char) (failure : Failure SpellingFault),
        (ended list).mapM Value.ofPiece = .error failure ↔
          ∃ piece, (∃ earlier later, ended list = earlier ++ piece :: later ∧
            ∀ before ∈ earlier, ∃ value, Value.ofPiece before = .ok value) ∧
            Value.ofPiece piece = .error failure) ∧
      ∀ piece : List Char, (∀ c ∈ piece, isBlank c = true) →
        Value.ofPiece piece = .error (.reported .emptyArgument) := by
  refine ⟨ofBody_eq_described body.toList, fun behind list hlist hclosing => ?_,
    fun list failure => mapM_eq_error_iff, fun piece => Value.ofPiece_of_blank⟩
  rw [parse, parse, String.toList_append, ofBody_eq_described, ofBody_eq_described,
    described_append hlist hclosing]

/-- Delimiters, commas and parentheses within literals, two literals in one argument, a blank within
the name, and a literal that opens behind the closing parenthesis. -/
theorem Invocation.parse_by_regions_literals :
    parse "in clude(#a\"),b#, \"#)\"\"c\", 7)" =
        .ok ⟨"include", [.path (Path.parse "a\"),b"), .string "#)\"\"c", .number 7]⟩ ∧
      parse ("in clude(#a\"),b#, \"#)\"\"c\", 7)" ++ "),\"#") =
        .ok ⟨"include", [.path (Path.parse "a\"),b"), .string "#)\"\"c", .number 7]⟩ := by
  have hread : parse "in clude(#a\"),b#, \"#)\"\"c\", 7)" =
      .ok ⟨"include", [.path (Path.parse "a\"),b"), .string "#)\"\"c", .number 7]⟩ := rfl
  obtain ⟨-, hbehind, -⟩ := parse_by_regions "in clude(#a\"),b#, \"#)\"\"c\", 7)"
  exact ⟨hread, (hbehind _ "#a\"),b#, \"#)\"\"c\", 7)".toList rfl
    (isSome_last_split.mp rfl)).trans hread⟩

end Transclude
