import Transclude.Proofs.Editor.Diagnosis

/-!
# Diagnoses read as the language server protocol defines positions

In the protocol, a line ends with a line feed, with a carriage return, or with both in this order,
and the characters of a line are counted in UTF-16 code units. A position behind the end of its line
stands for that end, and no position stands inside of a line end.

A published range has been counted otherwise: its lines end with line feeds only, and each character
counts as one. The two ways to count agree about a place exactly if every carriage return in front
of it belongs to a line feed, and all characters in front of it on its line take one code unit. So a
diagnostic lands on the call that it is about exactly if both ends of the call are such places.

## Main definitions

* `EditorPosition.Denotes` — the place of a text that a position stands for in the protocol
* `EditorRange.Denotes` — a range stands for what is written at a place in a text
* `IsCountedAlike` — the condition on the characters in front of a place
* `FileTree.Blames` — the call that a diagnosis has to be about

## Main results

* `EditorPosition.Denotes.unique` — a position stands for one place at most
* `EditorPosition.denotes_behind_iff` — when a place counted by line feeds and characters is the one
  that the protocol means
* `FileTree.Blames.unique` — a diagnosis has to be about one call only
* `FileTree.denotes_iff_of_mem_diagnose` — when a diagnostic lands on the call that it is about
* `FileTree.not_forall_denotes` — it does not always
-/

namespace Transclude

open Splitting

/-! ### Lines and code units -/

/-- The number of UTF-16 code units that the characters take. -/
def codeUnits : List Char → Nat
  | [] => 0
  | c :: cs => (if c.toNat < 0x10000 then 1 else 2) + codeUnits cs

/-- The number of lines that are ended. A carriage return in front of a line feed ends no line by
itself. -/
def lineEnds : List Char → Nat
  | [] => 0
  | c :: rest =>
    (if c = '\n' ∨ c = '\r' ∧ rest.head? ≠ some '\n' then 1 else 0) + lineEnds rest

/-- What stands behind the last line end, whether it is a line feed or a carriage return. -/
def openLine (cs : List Char) : List Char :=
  (cs.reverse.takeWhile fun c => c ≠ '\n' ∧ c ≠ '\r').reverse

/-- The place between the two texts stands inside of a line end. -/
def SplitsLineEnd (before rest : List Char) : Prop :=
  before.getLast? = some '\r' ∧ rest.head? = some '\n'
deriving Decidable

/-- The text starts with a line end, or it is the empty one. -/
def EndsLine (rest : List Char) : Prop :=
  rest.head? = none ∨ rest.head? = some '\n' ∨ rest.head? = some '\r'
deriving Decidable

/-- The position stands for the place behind `before` in the text `before ++ rest`. -/
def EditorPosition.Denotes (before rest : List Char) (p : EditorPosition) : Prop :=
  ¬ SplitsLineEnd before rest ∧ p.line = lineEnds before ∧
    (p.character = codeUnits (openLine before) ∨
      EndsLine rest ∧ codeUnits (openLine before) ≤ p.character)
deriving Decidable

/-- The range stands for what is written in a text behind `before`. -/
def EditorRange.Denotes (text before written : List Char) (range : EditorRange) : Prop :=
  ∃ rest, text = before ++ written ++ rest ∧ range.start.Denotes before (written ++ rest) ∧
    range.stop.Denotes (before ++ written) rest

/-- Line feeds and characters count the place behind a text as the protocol counts it: no carriage
return stands alone, and no character of the last line takes two code units. -/
structure IsCountedAlike (passed : List Char) : Prop where
  return_followed : ∀ i < passed.length, passed[i]? = some '\r' → passed[i + 1]? = some '\n'
  units_eq_one : ∀ c ∈ lastLine passed, c.toNat < 0x10000

instance (passed : List Char) : Decidable (IsCountedAlike passed) :=
  have : Decidable (∀ c ∈ lastLine passed, c.toNat < 0x10000) :=
    List.decidableBAll (fun c => c.toNat < 0x10000) (lastLine passed)
  decidable_of_iff ((∀ i < passed.length, passed[i]? = some '\r' → passed[i + 1]? = some '\n') ∧
    ∀ c ∈ lastLine passed, c.toNat < 0x10000)
    ⟨fun h => ⟨h.1, h.2⟩, fun h => ⟨h.1, h.2⟩⟩

@[simp] theorem codeUnits_nil : codeUnits [] = 0 := rfl

@[simp] theorem codeUnits_cons (c : Char) (cs : List Char) :
    codeUnits (c :: cs) = (if c.toNat < 0x10000 then 1 else 2) + codeUnits cs := rfl

@[simp] theorem codeUnits_append (cs ds : List Char) :
    codeUnits (cs ++ ds) = codeUnits cs + codeUnits ds := by
  induction cs with
  | nil => simp
  | cons c cs ih => simp only [List.cons_append, codeUnits_cons, ih, Nat.add_assoc]

/-- Every character takes a code unit. -/
theorem length_le_codeUnits (cs : List Char) : cs.length ≤ codeUnits cs := by
  induction cs with
  | nil => rfl
  | cons c cs ih =>
    rw [List.length_cons, codeUnits_cons]
    split <;> omega

theorem codeUnits_le_length_iff {cs : List Char} :
    codeUnits cs ≤ cs.length ↔ ∀ c ∈ cs, c.toNat < 0x10000 := by
  induction cs with
  | nil => simp
  | cons c cs ih =>
    have hle := length_le_codeUnits cs
    rw [List.length_cons, codeUnits_cons, List.forall_mem_cons, ← ih]
    split <;> omega

@[simp] theorem lineEnds_nil : lineEnds [] = 0 := rfl

theorem lineEnds_cons (c : Char) (rest : List Char) :
    lineEnds (c :: rest) =
      (if c = '\n' ∨ c = '\r' ∧ rest.head? ≠ some '\n' then 1 else 0) + lineEnds rest := rfl

/-- The lines that end in a text behind another one, unless a line end is torn apart. -/
theorem lineEnds_append {front rest : List Char} (h : ¬ SplitsLineEnd front rest) :
    lineEnds (front ++ rest) = lineEnds front + lineEnds rest := by
  induction front with
  | nil => simp
  | cons c front ih =>
    cases front with
    | nil =>
      have hwhole : c = '\r' → rest.head? ≠ some '\n' := by
        simpa [SplitsLineEnd] using h
      by_cases hc : c = '\r'
      · simp [lineEnds_cons, hc, hwhole hc]
      · simp [lineEnds_cons, hc]
    | cons d front =>
      have ih := ih fun hsplits => h ⟨by simpa using hsplits.1, hsplits.2⟩
      rw [List.cons_append, lineEnds_cons, ih, lineEnds_cons c, Nat.add_assoc]
      rfl

/-- A text that ends no line holds no line feed and no carriage return. -/
theorem not_mem_of_lineEnds_eq_zero {cs : List Char} (h : lineEnds cs = 0) :
    ∀ c ∈ cs, c ≠ '\n' ∧ c ≠ '\r' := by
  induction cs with
  | nil => simp
  | cons c cs ih =>
    rw [lineEnds_cons] at h
    have hrest := ih (by omega)
    have hc : ¬ (c = '\n' ∨ c = '\r' ∧ cs.head? ≠ some '\n') := by
      intro hends
      rw [if_pos hends] at h
      omega
    have hhead : cs.head? ≠ some '\n' := fun hfeed =>
      (hrest '\n' (List.mem_of_mem_head? hfeed)).1 rfl
    simp only [not_or, not_and, hhead, not_true, imp_false, ne_eq, not_false_eq_true] at hc
    exact List.forall_mem_cons.mpr ⟨hc, hrest⟩

theorem count_le_lineEnds (cs : List Char) : cs.count '\n' ≤ lineEnds cs := by
  induction cs with
  | nil => rfl
  | cons c cs ih =>
    rw [lineEnds_cons, List.count_cons]
    by_cases hc : c = '\n'
    · simp only [hc, true_or, if_true, beq_self_eq_true]
      omega
    · simp only [hc, beq_iff_eq, if_false]
      omega

/-- As many lines end as there are line feeds exactly if every carriage return belongs to one. -/
theorem lineEnds_eq_count_iff {cs : List Char} :
    lineEnds cs = cs.count '\n' ↔
      ∀ i < cs.length, cs[i]? = some '\r' → cs[i + 1]? = some '\n' := by
  induction cs with
  | nil => simp
  | cons c cs ih =>
    have hle := count_le_lineEnds cs
    rw [List.length_cons, Nat.forall_lt_succ_left]
    simp only [List.getElem?_cons_succ, ← ih, lineEnds_cons,
      List.count_cons, ← List.head?_eq_getElem?]
    by_cases hfeed : c = '\n'
    · simp [hfeed, Nat.add_comm 1]
    by_cases hreturn : c = '\r'
    · by_cases hhead : cs.head? = some '\n'
      · simp [hreturn, hhead]
      · simp [hreturn, hhead]
        omega
    · simp [hfeed, hreturn]

/-! ### Places -/

theorem openLine_append {front cs : List Char} (h : ∀ c ∈ cs, c ≠ '\n' ∧ c ≠ '\r') :
    openLine (front ++ cs) = openLine front ++ cs := by
  have htaken : ∀ c ∈ cs.reverse, (fun c => decide (c ≠ '\n' ∧ c ≠ '\r')) c = true := fun c hc =>
    decide_eq_true (h c (List.mem_reverse.mp hc))
  rw [openLine, List.reverse_append, List.takeWhile_append_of_pos htaken, List.reverse_append,
    List.reverse_reverse]
  rfl

/-- If every carriage return belongs to a line feed, then the last line is the one behind the last
line feed. -/
theorem openLine_eq_lastLine {cs : List Char}
    (h : ∀ i < cs.length, cs[i]? = some '\r' → cs[i + 1]? = some '\n') :
    openLine cs = lastLine cs := by
  induction cs using List.reverseRecOn with
  | nil => rfl
  | append_singleton cs c ih =>
    have hlast : c ≠ '\r' := by
      rintro rfl
      simpa using h cs.length (by simp) (by simp)
    rw [lastLine_concat]
    by_cases hfeed : c = '\n'
    · simp [openLine, hfeed]
    rw [openLine_append (by simp [hfeed, hlast]), if_neg hfeed, ih]
    -- The carriage returns further in front do not lean on the last character.
    intro i hi hreturn
    have hnext := h i (by simp; omega) (by rwa [List.getElem?_append_left hi])
    by_cases hinside : i + 1 < cs.length
    · rwa [List.getElem?_append_left hinside] at hnext
    · rw [show i + 1 = cs.length by omega] at hnext
      simp [hfeed] at hnext

namespace EditorPosition

variable {before rest : List Char} {p : EditorPosition}

/-- Further on in the text, a position stands for a later place. -/
theorem not_denotes_append {behind : List Char} (hbehind : behind ≠ [])
    (h : p.Denotes before (behind ++ rest)) : ¬ p.Denotes (before ++ behind) rest := by
  rintro ⟨-, hline', hcharacter'⟩
  obtain ⟨hwhole, hline, hcharacter⟩ := h
  have hsplits : ¬ SplitsLineEnd before behind := by
    rintro ⟨hreturn, hfeed⟩
    exact hwhole ⟨hreturn, by simp [hfeed]⟩
  rw [lineEnds_append hsplits] at hline'
  have hzero : lineEnds behind = 0 := by omega
  have hsame := not_mem_of_lineEnds_eq_zero hzero
  rw [openLine_append hsame, codeUnits_append] at hcharacter'
  have hgrows : 0 < codeUnits behind :=
    (List.length_pos_iff.mpr hbehind).trans_le (length_le_codeUnits behind)
  have hgoes : ¬ EndsLine (behind ++ rest) := by
    cases behind with
    | nil => exact absurd rfl hbehind
    | cons c cs => simpa [EndsLine] using hsame c List.mem_cons_self
  have heq := hcharacter.resolve_right fun hends => hgoes hends.1
  omega

/-- **A position stands for one place of a text at most.** -/
theorem Denotes.unique {before' rest' : List Char} (h : p.Denotes before rest)
    (h' : p.Denotes before' rest') (htext : before ++ rest = before' ++ rest') :
    before = before' := by
  obtain ⟨behind, rfl, rfl⟩ | ⟨behind, rfl, rfl⟩ := List.append_eq_append_iff.mp htext
  · by_contra hne
    exact not_denotes_append (fun hnil => hne (by simp [hnil])) h h'
  · by_contra hne
    exact not_denotes_append (fun hnil => hne (by simp [hnil])) h' h

/-- **When the ways to count agree.** Away from line ends, the place counted by line feeds and
characters is the one that the protocol means exactly if what stands in front is counted alike. -/
theorem denotes_behind_iff (hwhole : ¬ SplitsLineEnd before rest) :
    (EditorPosition.behind before).Denotes before rest ↔ IsCountedAlike before := by
  have hlength : (EditorPosition.behind before).character = (lastLine before).length := by
    rw [lastLine, List.length_reverse]
    rfl
  have hline : (EditorPosition.behind before).line = lineEnds before ↔
      lineEnds before = before.count '\n' := by
    rw [eq_comm]
    exact Int.natCast_inj
  rw [Denotes, hline, lineEnds_eq_count_iff, hlength]
  constructor
  · rintro ⟨-, hreturns, hcharacter⟩
    rw [openLine_eq_lastLine hreturns] at hcharacter
    exact ⟨hreturns, codeUnits_le_length_iff.mp (by omega)⟩
  · rintro ⟨hreturns, hunits⟩
    refine ⟨hwhole, hreturns, .inl ?_⟩
    rw [openLine_eq_lastLine hreturns]
    have hle := length_le_codeUnits (lastLine before)
    have hge := codeUnits_le_length_iff.mpr hunits
    omega

end EditorPosition

/-- A range that covers a call stands for it exactly if both of its ends are counted alike. -/
theorem EditorRange.Covers.denotes_iff {text before body : List Char} {range : EditorRange}
    (h : range.Covers text before (braced body)) :
    range.Denotes text before (braced body) ↔
      IsCountedAlike before ∧ IsCountedAlike (before ++ braced body) := by
  obtain ⟨⟨rest, rfl⟩, rfl⟩ := h
  -- Braces stand on the inner sides of both ends, so neither end tears a line end apart.
  have hstart : ¬ SplitsLineEnd before (braced body ++ rest) := fun hsplits => by
    simpa [braced] using hsplits.2
  have hstop : ¬ SplitsLineEnd (before ++ braced body) rest := fun hsplits => by
    have hbrace : before ++ braced body = (before ++ '{' :: '{' :: body ++ ['}']) ++ ['}'] := by
      simp [braced]
    have hlast := hsplits.1
    rw [hbrace, List.getLast?_concat] at hlast
    simp at hlast
  rw [← EditorPosition.denotes_behind_iff hstart, ← EditorPosition.denotes_behind_iff hstop]
  constructor
  · rintro ⟨rest', htext, hdenotes⟩
    obtain rfl := List.append_cancel_left htext
    exact hdenotes
  · intro hdenotes
    exact ⟨rest, rfl, hdenotes⟩

namespace FileTree

variable {files : FileTree} {path : Path} {text : String} {diagnostics : List Diagnostic}
variable {diagnostic : Diagnostic}

/-- The call with the given body, behind the text `before`, is the one that a diagnosis of the open
document has to be about: the first one that is misspelled, which is an error, or else the first one
whose expansion fails, which is a warning. -/
inductive Blames (files : FileTree) (path : Path) (text : String) :
    Severity → (before body : List Char) → Prop
  | misspelled {before body fault}
      (hmisspells : (leftmost text.toList).Misspells before body fault) :
      Blames files path text .error before body
  | stopped {d front c behind before body failure} (hparse : Document.parse text path = .ok d)
      (hnodes : d.nodes = front ++ .call c :: behind)
      (hearlier : ∀ earlier, .call earlier ∈ front → ∃ passages,
        (files.expander.expand (some 64) defaultCapacity ⟨[.call earlier]⟩).result = .ok passages)
      (hfails : (files.expander.expand (some 64) defaultCapacity ⟨[.call c]⟩).result =
        .error failure)
      (hwritten : before ++ braced body <+: text.toList)
      (hspan : c.span = some (Span.behind before (braced body))) :
      Blames files path text .warning before body

/-- A diagnosis has to be about one call only. -/
theorem Blames.unique {severity severity' : Severity} {before body before' body' : List Char}
    (h : files.Blames path text severity before body)
    (h' : files.Blames path text severity' before' body') :
    severity = severity' ∧ before = before' ∧ body = body' := by
  cases h with
  | misspelled hmisspells =>
    cases h' with
    | misspelled hmisspells' => exact ⟨rfl, hmisspells.unique hmisspells'⟩
    | stopped hparse =>
      rw [Document.parse_eq_error_iff.mpr ⟨_, _, _, hmisspells, rfl⟩] at hparse
      cases hparse
  | @stopped d front c behind before body failure hparse hnodes hearlier hfails hwritten hspan =>
    cases h' with
    | misspelled hmisspells =>
      rw [Document.parse_eq_error_iff.mpr ⟨_, _, _, hmisspells, rfl⟩] at hparse
      cases hparse
    | @stopped d' front' c' behind' before' body' failure' hparse' hnodes' hearlier' hfails'
        hwritten' hspan' =>
      obtain rfl : d = d' := Except.ok.inj (hparse.symm.trans hparse')
      have hnotMem : .call c' ∉ front := fun hmem => by
        obtain ⟨passages, hok⟩ := hearlier c' hmem
        rw [hok] at hfails'
        cases hfails'
      have hnotMem' : .call c ∉ front' := fun hmem => by
        obtain ⟨passages, hok⟩ := hearlier' c hmem
        rw [hok] at hfails
        cases hfails
      obtain ⟨-, hcall, -⟩ := append_cons_inj (hnodes.symm.trans hnodes') hnotMem' hnotMem
      obtain rfl := Node.call.inj hcall
      have hplace := Option.some.inj (hspan.symm.trans hspan')
      obtain ⟨rfl, hbraced⟩ := Span.behind_inj hwritten hwritten' hplace
      exact ⟨rfl, rfl, braced_inj.mp hbraced⟩

/-- A diagnostic covers the call that it has to be about, as lines and characters are counted. -/
theorem exists_blames_of_mem_diagnose (h : files.diagnose path text = .ok diagnostics)
    (hmem : diagnostic ∈ diagnostics) :
    ∃ before body, files.Blames path text diagnostic.severity before body ∧
      diagnostic.range.Covers text.toList before (braced body) := by
  cases hparse : Document.parse text path with
  | error failure =>
    obtain ⟨published, rfl, hseverity, before, body, fault, hmisspells, hcovers⟩ :=
      diagnose_of_misspelled h hparse
    obtain rfl := List.mem_singleton.mp hmem
    rw [hseverity]
    exact ⟨before, body, .misspelled hmisspells, hcovers⟩
  | ok d =>
    cases hexpand : (files.expander.expand (some 64) defaultCapacity d).result with
    | ok passages =>
      obtain rfl := diagnose_of_expanded h hparse hexpand
      cases hmem
    | error failure =>
      obtain ⟨published, rfl, hseverity, front, c, behind, before, body, hnodes, hearlier,
        ⟨_, hfails⟩, hspan, -, hcovers⟩ := diagnose_of_stopped h hparse hexpand
      obtain rfl := List.mem_singleton.mp hmem
      rw [hseverity]
      exact ⟨before, body, .stopped hparse hnodes hearlier hfails hcovers.1 hspan, hcovers⟩

/-- **When a diagnostic lands on its call.** A published diagnostic is about the first call that is
misspelled, or else about the first one whose expansion fails. Its range, read as the protocol
defines positions, covers exactly the text of this call, braces included, if and only if what stands
in front of the call and what stands in front of its end are counted alike: every carriage return
belongs to a line feed, and no character behind the last line feed takes two code units. -/
theorem denotes_iff_of_mem_diagnose (h : files.diagnose path text = .ok diagnostics)
    (hmem : diagnostic ∈ diagnostics) :
    ∃ before body, files.Blames path text diagnostic.severity before body ∧
      (diagnostic.range.Denotes text.toList before (braced body) ↔
        IsCountedAlike before ∧ IsCountedAlike (before ++ braced body)) := by
  obtain ⟨before, body, hblames, hcovers⟩ := exists_blames_of_mem_diagnose h hmem
  exact ⟨before, body, hblames, hcovers.denotes_iff⟩

/-- A document with a wide character and with both line ends in front of its call. -/
def wideText : String := "😀\r\n é\x7b\x7binclude(#a.md#)\x7d\x7d"

/-- A wide character on an earlier line, and a carriage return that belongs to a line feed, leave
the diagnostic at its call. -/
theorem denotes_iff_of_mem_diagnose_wide :
    chainedFiles.diagnose (Path.parse "input.md") wideText =
        .ok [⟨⟨⟨1, 2⟩, ⟨1, 21⟩⟩,
          "function `f` is not found (in expansion: include -> include)", .warning⟩] ∧
      ∃ before body, chainedFiles.Blames (Path.parse "input.md") wideText .warning before body ∧
        (⟨⟨1, 2⟩, ⟨1, 21⟩⟩ : EditorRange).Denotes wideText.toList before (braced body) := by
  have hpublished : chainedFiles.diagnose (Path.parse "input.md") wideText =
      .ok [⟨⟨⟨1, 2⟩, ⟨1, 21⟩⟩,
        "function `f` is not found (in expansion: include -> include)", .warning⟩] := by
    decide +kernel
  refine ⟨hpublished, ?_⟩
  obtain ⟨before, body, hblames, hdenotes⟩ := denotes_iff_of_mem_diagnose hpublished (.head _)
  refine ⟨before, body, hblames, hdenotes.mpr ?_⟩
  cases hblames with
  | stopped _ _ _ _ hwritten _ =>
    obtain ⟨rest, htext⟩ := hwritten
    have hlength : (before ++ braced body ++ rest).length = 24 := by
      rw [htext]
      rfl
    rw [List.length_append, List.length_append] at hlength
    -- A pair of braces stands at the call only, and each place from there on is counted alike.
    have halike : ∀ n ≤ 24, (wideText.toList.drop n).take 2 = ['{', '{'] → ∀ m ≤ 24, n ≤ m →
        IsCountedAlike (wideText.toList.take m) := by
      decide +kernel
    have hplaces := halike before.length (by omega) (by
      rw [← htext, List.append_assoc, List.drop_left]
      rfl)
    have hstart := hplaces before.length (by omega) le_rfl
    have hstop := hplaces (before ++ braced body).length (by
      rw [List.length_append]
      omega) (by
      rw [List.length_append]
      omega)
    rw [← htext, List.append_assoc, List.take_left] at hstart
    rw [← htext, List.take_left] at hstop
    exact ⟨hstart, hstop⟩

/-- A character outside the basic plane, and a call behind it. -/
def astralText : String := "😀\x7b\x7bf()\x7d\x7d"

/-- A diagnostic does not always land on its call. Behind a character that takes two code units, the
range starts inside of that character, where no place of the text is. -/
theorem not_forall_denotes :
    ¬ ∀ (files : FileTree) (path : Path) (text : String) (diagnostics : List Diagnostic)
      (diagnostic : Diagnostic), files.diagnose path text = .ok diagnostics →
      diagnostic ∈ diagnostics → ∃ before body,
        files.Blames path text diagnostic.severity before body ∧
          diagnostic.range.Denotes text.toList before (braced body) := by
  intro h
  have hpublished : chainedFiles.diagnose (Path.parse "a.md") astralText =
      .ok [⟨⟨⟨0, 1⟩, ⟨0, 8⟩⟩, "function `f` is not found", .warning⟩] := by
    decide +kernel
  obtain ⟨before, body, -, rest, htext, hstart, -⟩ := h _ _ _ _ _ hpublished (.head _)
  have hnowhere : ∀ n ≤ 8,
      ¬ EditorPosition.Denotes (astralText.toList.take n) (astralText.toList.drop n) ⟨0, 1⟩ := by
    decide +kernel
  have hlength : astralText.toList.length = 8 := by decide +kernel
  rw [htext, List.append_assoc] at hnowhere hlength
  rw [List.length_append] at hlength
  refine hnowhere before.length (by omega) ?_
  rwa [List.take_left, List.drop_left]

end FileTree

end Transclude
