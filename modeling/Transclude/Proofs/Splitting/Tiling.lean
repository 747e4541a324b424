import Transclude.Proofs.Place
import Transclude.Proofs.Splitting.Outline

/-!
# Nodes tile their source

The nodes that are read from a source stand side by side in it, from its start to its end. Only
where a call is left open two characters belong to no node: the braces that open it, in front of
the last text.

## Main definitions

* `Tiling` — spans cover what follows a text in a source, but for a gap in front of the last one
* `Node.Spells` — what a node is is what stands in its place
* `Splitting.gap` — the characters of a splitting that belong to no part

## Main results

* `Document.exists_holds_of_mem` — a node stands in the source that it is read from
* `Splitting.tiling_pieces` — the pieces of a splitting tile its text
* `Document.tiling_parse` — the nodes of a document tile its source and are what stands there
-/

namespace Transclude

open Splitting

/-- The spans, and `last` behind them, cover what follows the text `before` in a source. They stand
side by side, but for a gap of the characters `gap` in front of `last`. -/
structure Tiling (source before gap : List Char) (spans : List Span) (last : Span) : Prop where
  /-- The first span starts behind the text. -/
  starts : (spans ++ [last]).head?.map Span.start = some (Position.origin.after before)
  /-- Every span but the last starts where the one before it stops. -/
  adjacent : spans.IsChain fun a b => b.start = a.stop
  /-- The last span starts behind the gap. -/
  last_start : ∀ a ∈ spans.getLast?,
    last.start = a.stop.after gap ∧ Span.slice source ⟨a.stop, last.start⟩ = gap
  /-- There is a gap only behind a span. -/
  ne_nil : gap ≠ [] → spans ≠ []
  /-- The last span stops at the end of the source. -/
  ends : last.stop.offset = source.length
  /-- The source is made of the slices and the gap. -/
  rebuilds : before ++ spans.flatMap (·.slice source) ++ gap ++ last.slice source = source

/-- What stands in the place of a node: the content of a text, and between braces what spells the
invocation of a call. -/
def Node.Spells (written : List Char) : Node → Prop
  | .text t => t.content.toList = written
  | .call c => ∃ body, written = '{' :: '{' :: (body ++ ['}', '}']) ∧
      Invocation.ofBody body = .ok ⟨c.function, c.arguments⟩

namespace Piece

/-- The place of a piece. -/
def span : Piece → Span
  | text _ span | call _ span => span

/-- The characters that a piece is written with. -/
def written : Piece → List Char
  | text content _ => content
  | call body _ => '{' :: '{' :: (body ++ ['}', '}'])

variable {piece : Piece} {node : Node} {origin : Path} {source : String}

/-- A node keeps the place of its piece and is what the piece is written with. -/
theorem span_and_spells_of_read (h : piece.read origin source = .ok node) :
    node.span = some piece.span ∧ node.Spells piece.written := by
  cases piece with
  | text content span =>
    cases h
    exact ⟨rfl, String.toList_ofList⟩
  | call body span =>
    obtain ⟨invocation, hbody, rfl⟩ := read_call_eq_ok_iff.mp h
    exact ⟨rfl, body, rfl, hbody⟩

namespace Reads

variable {pieces : List Piece} {nodes : List Node}

theorem map_span (h : Reads origin source pieces nodes) :
    nodes.map Node.span = (pieces.map span).map some := by
  induction h with
  | nil => rfl
  | cons hread _ ih => simp [(span_and_spells_of_read hread).1, ih]

theorem exists_concat (h : Reads origin source (pieces ++ [piece]) nodes) :
    ∃ front last, nodes = front ++ [last] ∧ Reads origin source pieces front ∧
      piece.read origin source = .ok last := by
  unfold Reads at h
  rw [← List.forall₂_reverse_iff, List.reverse_append, List.reverse_singleton,
    List.singleton_append, List.forall₂_cons_left_iff] at h
  obtain ⟨last, front, hread, hfront, hnodes⟩ := h
  refine ⟨front.reverse, last, ?_, ?_, hread⟩
  · rw [← List.reverse_reverse nodes, hnodes, List.reverse_cons]
  · rw [Reads, ← List.forall₂_reverse_iff, List.reverse_reverse]
    exact hfront

end Reads

end Piece

namespace Tiling

variable {source before text gap : List Char} {spans : List Span} {s last : Span}

theorem singleton (h : last.Holds source before text) (hends : source = before ++ text) :
    Tiling source before [] [] last where
  starts := by simp [h.2]
  adjacent := .nil
  last_start _ h := by simp at h
  ne_nil h := absurd rfl h
  ends := by simp [h.2, hends]
  rebuilds := by rw [h.slice_eq, hends]; simp

/-- Two spans with a gap between them. -/
theorem pair (h : s.Holds source before text) {rest : List Char}
    (hlast : last.Holds source (before ++ text ++ gap) rest)
    (hends : source = before ++ text ++ gap ++ rest) : Tiling source before gap [s] last where
  starts := by simp [h.2]
  adjacent := .singleton s
  last_start := by
    rintro _ ⟨⟩
    have hgap : Span.Holds source (before ++ text) gap ⟨s.stop, last.start⟩ :=
      ⟨⟨rest, hends.symm⟩, by rw [h.2, hlast.2]⟩
    refine ⟨?_, hgap.slice_eq⟩
    rw [hlast.2, List.getLast_singleton, h.2, ← Position.after_append]
  ne_nil _ := List.cons_ne_nil s []
  ends := by rw [hlast.2, Position.origin_after_offset, hends]
  rebuilds := by rw [hlast.slice_eq, List.flatMap_singleton, h.slice_eq, hends]

/-- One more span in front of a tiling. -/
theorem cons (h : s.Holds source before text)
    (rest : Tiling source (before ++ text) gap spans last) :
    Tiling source before gap (s :: spans) last where
  starts := by simp [h.2]
  adjacent := by
    cases spans with
    | nil => exact .singleton s
    | cons b tail =>
      have hstart : b.start = s.stop := by simpa [h.2] using rest.starts
      exact .cons_cons hstart rest.adjacent
  last_start := by
    cases spans with
    | cons b tail => simpa using rest.last_start
    | nil =>
      -- The new span is the only one in front of the last, so there has been no gap before.
      have hstart : last.start = s.stop := by simpa [h.2] using rest.starts
      have hgap : gap = [] := by_contra fun hne => rest.ne_nil hne rfl
      rintro _ ⟨⟩
      simp [hgap, hstart, Span.slice]
  ne_nil _ := List.cons_ne_nil s spans
  ends := rest.ends
  rebuilds := by
    rw [List.flatMap_cons, h.slice_eq]
    simpa using rest.rebuilds

end Tiling

namespace Splitting

/-- The characters that belong to no part: the braces of a call that is left open. -/
def gap (s : Splitting) : List Char :=
  if s.isUnclosed then ['{', '{'] else []

variable {source before : List Char} {s : Splitting}

/-- The pieces stand where their characters stand. -/
theorem holds_of_mem_pieces (hsource : source = before ++ s.source) {piece : Piece}
    (hmem : piece ∈ s.pieces (Position.origin.after before)) :
    ∃ front, piece.span.Holds source front piece.written := by
  induction s generalizing before with
  | plain text =>
    rw [pieces, ← Position.after_append, List.mem_singleton] at hmem
    subst hmem
    exact ⟨before, .of_eq [] (by simp [hsource, Splitting.source, Piece.written])⟩
  | unclosed text rest =>
    simp only [pieces, ← Position.after_append, List.mem_pair] at hmem
    rcases hmem with rfl | rfl
    · exact ⟨before,
        .of_eq ('{' :: '{' :: rest) (by simp [hsource, Splitting.source, Piece.written])⟩
    · exact ⟨before ++ text ++ ['{', '{'],
        .of_eq [] (by simp [hsource, Splitting.source, Piece.written])⟩
  | call text body rest ih =>
    simp only [pieces, ← Position.after_append, List.mem_cons] at hmem
    rcases hmem with rfl | rfl | hmem
    · exact ⟨before, .of_eq ('{' :: '{' :: (body ++ '}' :: '}' :: rest.source))
        (by simp [hsource, Splitting.source, Piece.written])⟩
    · exact ⟨before ++ text,
        .of_eq rest.source (by simp [hsource, Splitting.source, Piece.written])⟩
    · exact ih (by simp [hsource, Splitting.source]) hmem

/-- The pieces of a splitting tile its text. -/
theorem tiling_pieces (hsource : source = before ++ s.source) :
    ∃ front content last, s.pieces (Position.origin.after before) = front ++ [.text content last] ∧
      Tiling source before s.gap (front.map Piece.span) last := by
  induction s generalizing before with
  | plain text =>
    refine ⟨[], text, _, rfl, ?_⟩
    rw [← Position.after_append]
    exact .singleton (.of_eq [] (by simp [hsource, Splitting.source])) hsource
  | unclosed text rest =>
    refine ⟨[.text text _], rest, _, rfl, ?_⟩
    simp only [← Position.after_append]
    exact .pair (.of_eq ('{' :: '{' :: rest) (by simp [hsource, Splitting.source]))
      (.of_eq [] (by simp [hsource, Splitting.source, gap, isUnclosed]))
      (by simp [hsource, Splitting.source, gap, isUnclosed])
  | call text body rest ih =>
    let braced := '{' :: '{' :: (body ++ ['}', '}'])
    let first : Span := ⟨Position.origin.after before, Position.origin.after (before ++ text)⟩
    let second : Span := ⟨first.stop, Position.origin.after (before ++ text ++ braced)⟩
    have hfirst : first.Holds source before text :=
      .of_eq (braced ++ rest.source) (by simp [hsource, Splitting.source, braced])
    have hsecond : second.Holds source (before ++ text) braced :=
      .of_eq rest.source (by simp [hsource, Splitting.source, braced])
    obtain ⟨front, content, last, hpieces, htiling⟩ :=
      @ih (before ++ text ++ braced) (by simp [hsource, Splitting.source, braced])
    refine ⟨.text text first :: .call body second :: front, content, last, ?_, ?_⟩
    · simp only [pieces, ← Position.after_append]
      rw [hpieces]
      rfl
    · exact .cons hfirst (.cons hsecond htiling)

end Splitting

/-- A node stands in the source that it is read from. -/
theorem Document.exists_holds_of_mem {source : String} {origin : Path} {d : Document} {node : Node}
    (h : Document.parse source origin = .ok d) (hmem : node ∈ d.nodes) :
    ∃ span before written, node.span = some span ∧ span.Holds source.toList before written ∧
      node.Spells written := by
  obtain ⟨piece, hpiece, hread⟩ := (parse_eq_ok_iff.mp h).exists_of_mem hmem
  obtain ⟨hspan, hspells⟩ := Piece.span_and_spells_of_read hread
  have hsource : source.toList = [] ++ (leftmost source.toList).source := by
    rw [source_leftmost, List.nil_append]
  obtain ⟨before, hholds⟩ := holds_of_mem_pieces hsource hpiece
  exact ⟨piece.span, before, piece.written, hspan, hholds, hspells⟩

/-- Every node of a document that is read has a place. -/
theorem Document.isPlaced_of_parse {source : String} {origin : Path} {d : Document}
    (h : Document.parse source origin = .ok d) : d.isPlaced = true := by
  refine List.all_eq_true.mpr fun node hmem => ?_
  obtain ⟨span, _, _, hspan, -⟩ := exists_holds_of_mem h hmem
  rw [hspan]
  rfl

/-- **Nodes tile their source.** Every node has a place with true positions, and is what stands
there. The places cover the source from its start to its end without overlap; in front of the last
one, which is a text, there is a gap of two opening braces if a call is left open, and no gap
otherwise. -/
theorem Document.tiling_parse {source : String} {origin : Path} {d : Document}
    (h : Document.parse source origin = .ok d) :
    (∀ node ∈ d.nodes, ∃ span, node.span = some span ∧ span.start.IsTrue source.toList ∧
      span.stop.IsTrue source.toList ∧ node.Spells (span.slice source.toList)) ∧
    ∃ front final spans last, d.nodes = front ++ [.text final] ∧
      front.map Node.span = spans.map some ∧ final.span = some last ∧
      Tiling source.toList [] (leftmost source.toList).gap spans last := by
  have hreads := parse_eq_ok_iff.mp h
  have hsource : source.toList = [] ++ (leftmost source.toList).source := by
    rw [source_leftmost, List.nil_append]
  constructor
  · intro node hmem
    obtain ⟨piece, hpiece, hread⟩ := hreads.exists_of_mem hmem
    obtain ⟨hspan, hspells⟩ := Piece.span_and_spells_of_read hread
    obtain ⟨before, hholds⟩ := holds_of_mem_pieces hsource hpiece
    exact ⟨piece.span, hspan, hholds.start_isTrue, hholds.stop_isTrue, hholds.slice_eq ▸ hspells⟩
  · obtain ⟨pieces, content, last, hpieces, htiling⟩ := tiling_pieces hsource
    rw [Position.after_nil] at hpieces
    rw [hpieces] at hreads
    obtain ⟨front, _, hnodes, hfront, hread⟩ := hreads.exists_concat
    cases hread
    exact ⟨front, _, pieces.map Piece.span, last, hnodes, hfront.map_span, rfl, htiling⟩

/-- A source with line feeds beside braces, two calls side by side, and a call that is left open. -/
def hostileLines : String :=
  "a\n\x7b\x7bf()\x7d\x7d\x7b\x7b\ng()\x7d\x7d\n\x7b\x7bx\ny"

theorem Splitting.leftmost_hostileLines :
    leftmost hostileLines.toList = .call "a\n".toList "f()".toList
      (.call [] "\ng()".toList (.unclosed "\n".toList "x\ny".toList)) := by
  have hlast : leftmost ("\n".toList ++ '{' :: '{' :: "x\ny".toList) =
      .unclosed "\n".toList "x\ny".toList := leftmost_unclosed (by decide) (by decide)
  have hsecond : leftmost ('{' :: '{' :: ("\ng()".toList ++ '}' :: '}' ::
        ("\n".toList ++ '{' :: '{' :: "x\ny".toList))) =
      .call [] "\ng()".toList (.unclosed "\n".toList "x\ny".toList) := by
    rw [leftmost_call_nil (by decide), hlast]
  rw [← hsecond]
  exact leftmost_call (by decide : ¬ HasPair '{' ("a\n".toList ++ ['{']))
    (by decide : ¬ HasPair '}' ("f()".toList ++ ['}']))

theorem Document.tiling_parse_hostileLines :
    ∃ d, Document.parse hostileLines .here = .ok d ∧
      (∀ node ∈ d.nodes, ∃ span, node.span = some span ∧
        span.start.IsTrue hostileLines.toList ∧ span.stop.IsTrue hostileLines.toList ∧
        node.Spells (span.slice hostileLines.toList)) ∧
      ∃ front final spans last, d.nodes = front ++ [.text final] ∧
        front.map Node.span = spans.map some ∧ final.span = some last ∧
        Tiling hostileLines.toList [] ['{', '{'] spans last := by
  have hparse : Document.parse hostileLines .here = .ok ⟨[
      .text ⟨"a\n", .here, some ⟨⟨1, 1, 0⟩, ⟨2, 1, 2⟩⟩⟩,
      .call ⟨"f", [], .here, some ⟨⟨2, 1, 2⟩, ⟨2, 8, 9⟩⟩⟩,
      .text ⟨"", .here, some ⟨⟨2, 8, 9⟩, ⟨2, 8, 9⟩⟩⟩,
      .call ⟨"g", [], .here, some ⟨⟨2, 8, 9⟩, ⟨3, 6, 17⟩⟩⟩,
      .text ⟨"\n", .here, some ⟨⟨3, 6, 17⟩, ⟨4, 1, 18⟩⟩⟩,
      .text ⟨"x\ny", .here, some ⟨⟨4, 3, 20⟩, ⟨5, 2, 23⟩⟩⟩]⟩ := rfl
  have hgap : (leftmost hostileLines.toList).gap = ['{', '{'] := by
    rw [leftmost_hostileLines]
    rfl
  have htiling := Document.tiling_parse hparse
  rw [hgap] at htiling
  exact ⟨_, hparse, htiling⟩

end Transclude
