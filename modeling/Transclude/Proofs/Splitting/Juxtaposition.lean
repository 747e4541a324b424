import Transclude.Proofs.Splitting.Concatenation
import Transclude.Proofs.Splitting.FirstFault
import Transclude.Proofs.Splitting.Tiling

/-!
# Documents of two texts side by side

When a text is written behind another one, its positions move: by the lines and the characters in
front of it, and on its first line by the last line in front of it. A document of two texts side by
side is made of the documents of both. Where the texts meet there is one passage instead of two, and
all that is read from the second text has moved with it, also the place of an error. The first text
must leave no call open, and no pair of opening braces may be made where the texts meet.

## Main definitions

* `Position.movedBehind`, `Span.movedBehind` — a place of a text when the text stands behind another
* `Document.Joins` — the document that two documents side by side make

## Main results

* `Position.movedBehind_origin_after` — positions move as is said
* `Splitting.pieces_movedBehind`, `Piece.Reads.movedBehind` — so do the pieces of a text and the
  nodes that are read from them
* `Splitting.exists_pieces_append` — splittings side by side have the pieces of both, save where
  they meet
* `Document.parse_append` — what is read from two texts side by side
-/

namespace Transclude

open Splitting

variable {source source' : String} {origin : Path} {front passed before body text cs : List Char}
variable {s : Splitting} {failure : Failure SpellingFault}

/-- Where a position of a text is when the text stands behind `front`. The columns of the first line
alone are moved. -/
def Position.movedBehind (front : List Char) (p : Position) : Position where
  line := p.line + front.count '\n'
  column := if p.line = 1 then p.column + (lastLine front).length else p.column
  offset := p.offset + front.length

/-- Where a stretch of a text is when the text stands behind `front`. -/
def Span.movedBehind (front : List Char) (span : Span) : Span :=
  ⟨span.start.movedBehind front, span.stop.movedBehind front⟩

/-- The piece as it is when its text stands behind `front`. -/
def Piece.movedBehind (front : List Char) : Piece → Piece
  | .text content span => .text content (span.movedBehind front)
  | .call body span => .call body (span.movedBehind front)

/-- The node as it is when its text stands behind `front`. -/
def Node.movedBehind (front : List Char) : Node → Node
  | .text t => .text { t with span := t.span.map (Span.movedBehind front) }
  | .call c => .call { c with span := c.span.map (Span.movedBehind front) }

/-- The document that two documents side by side make, when the text of the first one is `front`.
The passages that meet become one, from where the first of them starts to where the second one
stops. -/
inductive Document.Joins (front : List Char) : (first second joined : Document) → Prop
  | intro {nodes rest content content' origin start stop start' stop'} :
      Joins front ⟨nodes ++ [.text ⟨content, origin, some ⟨start, stop⟩⟩]⟩
        ⟨.text ⟨content', origin, some ⟨start', stop'⟩⟩ :: rest⟩
        ⟨nodes ++ .text ⟨content ++ content', origin, some ⟨start, stop'.movedBehind front⟩⟩ ::
          rest.map (Node.movedBehind front)⟩

/-- Positions of a text are moved behind `front` as advancing over both texts tells them. -/
theorem Position.movedBehind_origin_after (front cs : List Char) :
    (Position.origin.after cs).movedBehind front = Position.origin.after (front ++ cs) := by
  simp only [origin_after_eq_lastLine, movedBehind, lastLine_append, List.count_append,
    List.length_append, Int.natCast_add, mk.injEq]
  -- Behind a line feed the column is that of the text alone.
  by_cases hmem : '\n' ∈ cs
  · have hcount : 0 < cs.count '\n' := List.count_pos_iff.mpr hmem
    rw [if_neg (by omega), if_pos hmem]
    omega
  · have hcount : cs.count '\n' = 0 := List.count_eq_zero.mpr hmem
    rw [if_pos (by omega), if_neg hmem, lastLine_eq_self hmem, List.length_append]
    omega

theorem Span.movedBehind_behind (front before text : List Char) :
    (Span.behind before text).movedBehind front = Span.behind (front ++ before) text := by
  simp only [movedBehind, behind, Position.movedBehind_origin_after, List.append_assoc]

namespace Splitting

/-- The pieces of a text that stands behind `front` are its pieces, moved there. -/
theorem pieces_movedBehind (s : Splitting) (front passed : List Char) :
    s.pieces (Position.origin.after (front ++ passed)) =
      (s.pieces (Position.origin.after passed)).map (Piece.movedBehind front) := by
  induction s generalizing passed with
  | plain text =>
    simp only [pieces, ← Position.after_append, List.append_assoc, List.map_cons, List.map_nil,
      Piece.movedBehind, Span.movedBehind, Position.movedBehind_origin_after]
  | unclosed text rest =>
    simp only [pieces, ← Position.after_append, List.append_assoc, List.map_cons, List.map_nil,
      Piece.movedBehind, Span.movedBehind, Position.movedBehind_origin_after]
  | call text body rest ih =>
    simp only [pieces_call, ← Position.after_append, List.append_assoc, ih, List.map_cons,
      Piece.movedBehind, Span.movedBehind, Position.movedBehind_origin_after]

/-- Plain text in front of a text becomes a part of its first piece, and all others are moved. -/
theorem exists_pieces_prepend (s : Splitting) (before text : List Char) :
    ∃ content others,
      s.pieces .origin = .text content (Span.behind [] content) :: others ∧
      (s.prepend text).pieces (Position.origin.after before) =
        .text (text ++ content) (Span.behind before (text ++ content)) ::
          others.map (Piece.movedBehind (before ++ text)) := by
  cases s with
  | plain content =>
    exact ⟨content, [], by simp [pieces, prepend, Span.behind, Position.after_append]⟩
  | unclosed content rest =>
    refine ⟨content, [.text rest (Span.behind (content ++ ['{', '{']) rest)], ?_, ?_⟩
    · simp only [pieces, Span.behind, ← Position.after_append, List.nil_append, Position.after_nil]
    · simp only [pieces, prepend, Span.behind, ← Position.after_append, List.append_assoc,
        List.map_cons, List.map_nil, Piece.movedBehind, Span.movedBehind,
        Position.movedBehind_origin_after]
  | call content body rest =>
    have hrest := rest.pieces_movedBehind (before ++ text) (content ++ braced body)
    refine ⟨content, .call body (Span.behind content (braced body)) ::
      rest.pieces (Position.origin.after (content ++ braced body)), ?_, ?_⟩
    · simp only [pieces_call, Span.behind, ← Position.after_append, List.nil_append,
        Position.after_nil]
    · simp only [pieces_call, prepend, Span.behind, ← Position.after_append, List.append_assoc,
        List.map_cons, Piece.movedBehind, Span.movedBehind, Position.movedBehind_origin_after,
        ← hrest]

/-- Splittings side by side have the pieces of both, save that the last text of the first one stands
in front of the second one. -/
theorem exists_pieces_append (passed : List Char) (hclosed : s.isUnclosed = false) :
    ∃ pieces before text, passed ++ s.source = before ++ text ∧
      s.pieces (Position.origin.after passed) =
        pieces ++ [.text text (Span.behind before text)] ∧
      ∀ s', (s.append s').pieces (Position.origin.after passed) =
        pieces ++ (s'.prepend text).pieces (Position.origin.after before) := by
  induction s generalizing passed with
  | plain text =>
    exact ⟨[], passed, text, rfl, by simp [pieces, Span.behind, Position.after_append],
      fun s' => rfl⟩
  | unclosed text rest => contradiction
  | call text body rest ih =>
    obtain ⟨pieces, before, last, hsource, hpieces, happend⟩ :=
      ih (passed ++ text ++ braced body) hclosed
    refine ⟨.text text (Span.behind passed text) ::
      .call body (Span.behind (passed ++ text) (braced body)) :: pieces, before, last, ?_, ?_,
      fun s' => ?_⟩
    · rw [← hsource]
      simp [Splitting.source, braced]
    · simp only [pieces_call, ← Position.after_append, hpieces, Span.behind, List.cons_append]
    · simp only [append, pieces_call, ← Position.after_append, happend, Span.behind,
        List.cons_append]

end Splitting

namespace Splitting

theorem bodies_prepend (s : Splitting) (text : List Char) : (s.prepend text).bodies = s.bodies := by
  cases s <;> rfl

/-- The closed calls of splittings side by side are those of both. -/
theorem bodies_append (s' : Splitting) (hclosed : s.isUnclosed = false) :
    (s.append s').bodies = s.bodies ++ s'.bodies := by
  induction s with
  | plain text => exact s'.bodies_prepend text
  | unclosed text rest => contradiction
  | call text body rest ih => rw [append, bodies, bodies, ih hclosed, List.cons_append]

theorem Misspells.prepend (h : s.Misspells before body failure) (text : List Char) :
    (s.prepend text).Misspells (text ++ before) body failure := by
  cases h with
  | here hbody => exact .here hbody
  | @behind first _ _ before _ _ hbody hrest =>
    rw [← List.append_assoc, ← List.append_assoc]
    exact .behind hbody hrest

/-- If no call of the first splitting is misspelled, the first misspelled call of the second one is
the first of both. -/
theorem Misspells.append_left {s' : Splitting} (hclosed : s.isUnclosed = false)
    (hbodies : ∀ body ∈ s.bodies, ∃ invocation, Invocation.ofBody body = .ok invocation)
    (h : s'.Misspells before body failure) :
    (s.append s').Misspells (s.source ++ before) body failure := by
  induction s with
  | plain text => exact h.prepend text
  | unclosed text rest => contradiction
  | call text first rest ih =>
    obtain ⟨hfirst, hrest⟩ := List.forall_mem_cons.mp hbodies
    have hsource : (call text first rest).source ++ before =
        text ++ braced first ++ (rest.source ++ before) := by simp [Splitting.source, braced]
    rw [hsource]
    exact .behind hfirst (ih hclosed hrest)

end Splitting

theorem Piece.read_movedBehind {piece : Piece} {node : Node}
    (h : piece.read origin source = .ok node) (front : List Char) (source' : String) :
    (piece.movedBehind front).read origin source' = .ok (node.movedBehind front) := by
  cases piece with
  | text content span =>
    cases h
    rfl
  | call body span =>
    obtain ⟨invocation, hbody, rfl⟩ := read_call_eq_ok_iff.mp h
    exact read_call_eq_ok_iff.mpr ⟨invocation, hbody, rfl⟩

/-- What is read from pieces moves with them. -/
theorem Piece.Reads.movedBehind {pieces : List Piece} {nodes : List Node}
    (h : Reads origin source pieces nodes) (front : List Char) (source' : String) :
    Reads origin source' (pieces.map (Piece.movedBehind front))
      (nodes.map (Node.movedBehind front)) := by
  rw [Reads, List.forall₂_map_left_iff, List.forall₂_map_right_iff]
  apply List.Forall₂.imp _ h
  intro piece node hread
  exact read_movedBehind hread front source'

theorem Piece.Reads.withSource {pieces : List Piece} {nodes : List Node}
    (h : Reads origin source pieces nodes) (source' : String) :
    Reads origin source' pieces nodes := by
  apply List.Forall₂.imp _ h
  intro piece node hread
  cases piece with
  | text content span => exact hread
  | call body span => exact read_call_eq_ok_iff.mpr (read_call_eq_ok_iff.mp hread)

/-- The document of two texts side by side, if both can be read. -/
theorem Document.exists_joins_of_parse {a b : String} {d d' : Document}
    (ha : parse a origin = .ok d) (hb : parse b origin = .ok d')
    (hclosed : (leftmost a.toList).isUnclosed = false) (happart : Apart a.toList b.toList) :
    ∃ joined, parse (a ++ b) origin = .ok joined ∧ Joins a.toList d d' joined := by
  obtain ⟨pieces, before, text, hsource, hpieces, happend⟩ := exists_pieces_append [] hclosed
  obtain ⟨content, others, hothers, hprepend⟩ :=
    (leftmost b.toList).exists_pieces_prepend before text
  rw [source_leftmost, List.nil_append] at hsource
  rw [Position.after_nil] at hpieces happend
  -- The pieces of either text, and the nodes that are read from them.
  have hfirst := parse_eq_ok_iff.mp ha
  have hsecond := parse_eq_ok_iff.mp hb
  rw [hpieces] at hfirst
  rw [hothers] at hsecond
  obtain ⟨front, _, hnodes, hfront, hlast⟩ := hfirst.exists_concat
  obtain ⟨_, rest, hread, hrest, hnodes'⟩ := List.forall₂_cons_left_iff.mp hsecond
  cases hlast
  cases hread
  obtain ⟨_⟩ := d
  obtain ⟨_⟩ := d'
  subst hnodes hnodes'
  refine ⟨_, parse_eq_ok_iff.mpr ?_, .intro⟩
  rw [String.toList_append, leftmost_append hclosed happart, happend, hprepend, ← hsource]
  have hstop : (Position.origin.after content).movedBehind a.toList =
      Position.origin.after (before ++ (text ++ content)) := by
    rw [hsource, Position.movedBehind_origin_after, List.append_assoc]
  refine List.rel_append (hfront.withSource _) (.cons ?_ ?_)
  · simp only [Piece.read, Span.behind, List.nil_append, hstop, String.ofList_append]
  · exact Piece.Reads.movedBehind hrest _ _

/-- **Two texts side by side are read like each of them.** The first text can be read, leaves no
call open, and makes no pair of opening braces with the second one. Then the two can be read exactly
if the second one can, and their documents make the document of both. If the second text fails, both
fail in the same way, and an error is located at the same call, which is moved behind the first
text. -/
theorem Document.parse_append {a b : String} {origin : Path} {d : Document}
    (ha : parse a origin = .ok d) (hclosed : (leftmost a.toList).isUnclosed = false)
    (happart : Apart a.toList b.toList) :
    ((∃ joined, parse (a ++ b) origin = .ok joined) ↔ ∃ d', parse b origin = .ok d') ∧
    (∀ d', parse b origin = .ok d' →
      ∃ joined, parse (a ++ b) origin = .ok joined ∧ Joins a.toList d d' joined) ∧
    (∀ error, parse b origin = .error (.reported error) →
      ∃ (fault : SpellingFault) (span : Span), error = fault.locatedAt ⟨origin, some span, b⟩ ∧
        parse (a ++ b) origin = .error (.reported
          (fault.locatedAt ⟨origin, some (span.movedBehind a.toList), a ++ b⟩))) ∧
    ∀ abort, parse b origin = .error (.aborted abort) →
      parse (a ++ b) origin = .error (.aborted abort) := by
  have hbodies := exists_parse_eq_ok_iff.mp ⟨d, ha⟩
  have hleftmost : leftmost (a ++ b).toList = (leftmost a.toList).append (leftmost b.toList) := by
    rw [String.toList_append, leftmost_append hclosed happart]
  -- The first misspelled call of the second text is the first one of both.
  have hmisspells {before body : List Char} {failure : Failure SpellingFault}
      (h : (leftmost b.toList).Misspells before body failure) :
      (leftmost (a ++ b).toList).Misspells (a.toList ++ before) body failure := by
    rw [hleftmost]
    simpa only [source_leftmost] using h.append_left hclosed hbodies
  refine ⟨?_, fun d' hb => exists_joins_of_parse ha hb hclosed happart, ?_, ?_⟩
  · rw [exists_parse_eq_ok_iff, exists_parse_eq_ok_iff, hleftmost, bodies_append _ hclosed,
      List.forall_mem_append]
    exact and_iff_right hbodies
  · intro error hb
    obtain ⟨before, body, fault | abort, hfirst, hfailure⟩ := parse_eq_error_iff.mp hb
    · cases hfailure
      refine ⟨fault, _, rfl, parse_eq_error_iff.mpr ⟨_, body, _, hmisspells hfirst, ?_⟩⟩
      rw [Span.movedBehind_behind]
      rfl
    · cases hfailure
  · intro abort hb
    obtain ⟨before, body, fault | abort', hfirst, hfailure⟩ := parse_eq_error_iff.mp hb
    · cases hfailure
    · cases hfailure
      exact parse_eq_error_iff.mpr ⟨_, body, _, hmisspells hfirst, rfl⟩

/-- A text that ends in a brace behind a call on its second line. -/
def bracedEnd : String :=
  "p\n\x7b\x7bf()\x7d\x7d\x7b"

/-- A text that starts with the other brace and has a call on its second line. -/
def bracedStart : String :=
  "\x7d\n\x7b\x7bg()\x7d\x7d"

theorem Splitting.leftmost_bracedEnd :
    leftmost bracedEnd.toList = .call "p\n".toList "f()".toList (.plain ['{']) := by
  rw [← leftmost_plain (by decide : ¬ HasPair '{' ['{'])]
  exact leftmost_call (by decide : ¬ HasPair '{' ("p\n".toList ++ ['{']))
    (by decide : ¬ HasPair '}' ("f()".toList ++ ['}']))

theorem Document.parse_append_bracedEnd :
    ∃ d d' joined, parse bracedEnd .here = .ok d ∧
      (leftmost bracedEnd.toList).isUnclosed = false ∧
      Apart bracedEnd.toList bracedStart.toList ∧ parse bracedStart .here = .ok d' ∧
      parse (bracedEnd ++ bracedStart) .here = .ok joined ∧ Joins bracedEnd.toList d d' joined := by
  have hend : parse bracedEnd .here = .ok ⟨[
      .text ⟨"p\n", .here, some ⟨⟨1, 1, 0⟩, ⟨2, 1, 2⟩⟩⟩,
      .call ⟨"f", [], .here, some ⟨⟨2, 1, 2⟩, ⟨2, 8, 9⟩⟩⟩,
      .text ⟨"\x7b", .here, some ⟨⟨2, 8, 9⟩, ⟨2, 9, 10⟩⟩⟩]⟩ := rfl
  have hstart : parse bracedStart .here = .ok ⟨[
      .text ⟨"\x7d\n", .here, some ⟨⟨1, 1, 0⟩, ⟨2, 1, 2⟩⟩⟩,
      .call ⟨"g", [], .here, some ⟨⟨2, 1, 2⟩, ⟨2, 8, 9⟩⟩⟩,
      .text ⟨"", .here, some ⟨⟨2, 8, 9⟩, ⟨2, 8, 9⟩⟩⟩]⟩ := rfl
  have hclosed : (leftmost bracedEnd.toList).isUnclosed = false := by
    rw [leftmost_bracedEnd]
    rfl
  have happart : Apart bracedEnd.toList bracedStart.toList := by decide
  obtain ⟨-, hjoins, -⟩ := parse_append hend hclosed happart
  obtain ⟨joined, hparse, hjoined⟩ := hjoins _ hstart
  exact ⟨_, _, joined, hend, hclosed, happart, hstart, hparse, hjoined⟩

end Transclude
