import Transclude.Text.Position
import Mathlib.Data.List.Induction

/-!
# Places in a source

A position that is advanced over a text character by character is the one that the text itself
tells: its line is counted by the line feeds in front of it, and its column by the distance to the
last of them.

## Main definitions

* `lastNewline?` — the index of the last line feed
* `lastLine` — what stands behind the last line feed
* `Position.atOffset` — the position at an offset of a source
* `Position.IsTrue` — a position stands in a source where its offset says
* `Span.slice` — the characters between two positions
* `Span.Holds` — a span is the place of a text in a source

## Main results

* `Position.origin_after_append` — advancing counts lines and columns right
* `Position.origin_after_eq_lastLine` — the line is the number of line feeds, the column the length
  of the last line, each and one more
* `Span.Holds.slice_eq` — the slice at the place of a text is the text
-/

namespace Transclude

/-- The greatest index at which a line feed stands. -/
def lastNewline? (cs : List Char) : Option Nat :=
  ((List.range cs.length).filter fun i => cs[i]? = some '\n').getLast?

/-- The last line of a text: what stands behind its last line feed. -/
def lastLine (cs : List Char) : List Char :=
  (cs.reverse.takeWhile (· ≠ '\n')).reverse

/-- The position at an offset of a source, told by the line feeds in front of it. -/
def Position.atOffset (source : List Char) (offset : Nat) : Position where
  line := 1 + (source.take offset).count '\n'
  column :=
    match lastNewline? (source.take offset) with
    | some i => offset - i
    | none => offset + 1
  offset := offset

/-- The position stands in the source, and its line and column are those of its offset. -/
def Position.IsTrue (source : List Char) (p : Position) : Prop :=
  ∃ offset ≤ source.length, p = .atOffset source offset

/-- The characters of a source between the positions of a span. -/
def Span.slice (source : List Char) (span : Span) : List Char :=
  (source.take span.stop.offset.toNat).drop span.start.offset.toNat

/-- The span is the place of the text in the source, which starts with `before`. -/
def Span.Holds (source before text : List Char) (span : Span) : Prop :=
  before ++ text <+: source ∧
    span = ⟨Position.origin.after before, Position.origin.after (before ++ text)⟩

theorem lastNewline?_concat (cs : List Char) (c : Char) :
    lastNewline? (cs ++ [c]) = if c = '\n' then some cs.length else lastNewline? cs := by
  have hfront : (List.range cs.length).filter (fun i => (cs ++ [c])[i]? = some '\n') =
      (List.range cs.length).filter fun i => cs[i]? = some '\n' := by
    refine List.filter_congr fun i hi => ?_
    rw [List.getElem?_append_left (List.mem_range.mp hi)]
  unfold lastNewline?
  rw [List.length_append, List.length_singleton, List.range_succ, List.filter_append, hfront]
  by_cases hc : c = '\n' <;> simp [hc]

@[simp] theorem lastLine_concat (cs : List Char) (c : Char) :
    lastLine (cs ++ [c]) = if c = '\n' then [] else lastLine cs ++ [c] := by
  by_cases hc : c = '\n' <;> simp [lastLine, hc]

/-- The last line goes on in the text behind it, up to the first line feed there. -/
theorem lastLine_append (front cs : List Char) :
    lastLine (front ++ cs) = if '\n' ∈ cs then lastLine cs else lastLine front ++ cs := by
  induction cs using List.reverseRecOn with
  | nil => simp
  | append_singleton cs c ih =>
    rw [← List.append_assoc, lastLine_concat, lastLine_concat, ih]
    by_cases hc : c = '\n'
    · simp [hc]
    · by_cases hmem : '\n' ∈ cs <;> simp [hc, hmem, Ne.symm hc]

theorem lastLine_eq_self {cs : List Char} (h : '\n' ∉ cs) : lastLine cs = cs := by
  simpa [h, lastLine] using lastLine_append [] cs

namespace Position

@[simp] theorem origin_after_offset (cs : List Char) :
    (origin.after cs).offset = cs.length := by
  simp [offset_after, origin]

/-- Advancing counts lines and columns right. -/
theorem origin_after_append (passed rest : List Char) :
    origin.after passed = atOffset (passed ++ rest) passed.length := by
  unfold atOffset
  rw [List.take_left']
  · induction passed using List.reverseRecOn with
    | nil => rfl
    | append_singleton cs c ih =>
      rw [after_append, ih, after_cons, after_nil, advance, lastNewline?_concat]
      -- A line feed counts as the last of its line; the line behind it starts with column 1.
      by_cases hc : c = '\n'
      · simp [hc]
        omega
      · cases lastNewline? cs with
        | none => simp [hc]
        | some i =>
          simp [hc]
          omega
  · rfl

/-- A position is told by the line feeds in front of it and by the last line. -/
theorem origin_after_eq_lastLine (passed : List Char) :
    origin.after passed =
      ⟨passed.count '\n' + 1, (lastLine passed).length + 1, passed.length⟩ := by
  induction passed using List.reverseRecOn with
  | nil => rfl
  | append_singleton cs c ih =>
    rw [after_append, ih, after_cons, after_nil, advance, lastLine_concat]
    by_cases hc : c = '\n' <;> simp [hc]

end Position

namespace Span.Holds

variable {source before text : List Char} {span : Span}

theorem of_eq (rest : List Char) (hsource : source = before ++ text ++ rest) :
    Span.Holds source before text
      ⟨Position.origin.after before, Position.origin.after (before ++ text)⟩ :=
  ⟨⟨rest, hsource.symm⟩, rfl⟩

/-- The slice at the place of a text is the text. -/
theorem slice_eq (h : span.Holds source before text) : span.slice source = text := by
  obtain ⟨⟨rest, rfl⟩, rfl⟩ := h
  rw [slice, Position.origin_after_offset, Position.origin_after_offset, Int.toNat_natCast,
    Int.toNat_natCast, List.take_left', List.drop_left'] <;> rfl

theorem start_isTrue (h : span.Holds source before text) : span.start.IsTrue source := by
  obtain ⟨⟨rest, rfl⟩, rfl⟩ := h
  refine ⟨before.length, by simp, ?_⟩
  rw [List.append_assoc]
  exact Position.origin_after_append before (text ++ rest)

theorem stop_isTrue (h : span.Holds source before text) : span.stop.IsTrue source := by
  obtain ⟨⟨rest, rfl⟩, rfl⟩ := h
  exact ⟨(before ++ text).length, by simp, Position.origin_after_append (before ++ text) rest⟩

end Span.Holds

end Transclude
