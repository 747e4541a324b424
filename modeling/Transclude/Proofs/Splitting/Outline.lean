import Transclude.Document.Parse
import Transclude.Proofs.Splitting.Scan
import Transclude.Proofs.Traversal

/-!
# What a document says

A document that is read from a source says what the leftmost splitting of the source says: the
same texts and the same invocations, in the same order.

## Main definitions

* `Node.outline`, `Document.outline` — what a document says, without where it says it

## Main results

* `Document.parse_eq_ok_iff` — the nodes of a document are the pieces of its source, read one by one
* `Splitting.reads_plain_iff`, `Splitting.reads_unclosed_iff`, `Splitting.reads_call_iff` — the
  nodes of a splitting by its parts
* `Splitting.reads_iff` — the pieces of a splitting can be read exactly when its calls are spelled
  right
* `Document.outline_parse` — reading a source is cutting it at the leftmost pairs
-/

namespace Transclude

open Splitting

/-- What a node says: a text, or what a call asks for. -/
def Node.outline : Node → String ⊕ Invocation
  | .text t => .inl t.content
  | .call c => .inr ⟨c.function, c.arguments⟩

/-- What the nodes of a document say. -/
def Document.outline (d : Document) : List (String ⊕ Invocation) :=
  d.nodes.map Node.outline

theorem Node.isText_eq_isLeft (node : Node) : node.isText = node.outline.isLeft := by
  cases node <;> rfl

variable {source : String} {origin : Path} {p : Position}

/-- Every piece reads as the node at the same place in a list. -/
def Piece.Reads (origin : Path) (source : String) (pieces : List Piece) (nodes : List Node) :
    Prop :=
  List.Forall₂ (fun piece node => piece.read origin source = .ok node) pieces nodes

/-- Every node is read from some piece. -/
theorem Piece.Reads.exists_of_mem {pieces : List Piece} {nodes : List Node} {node : Node}
    (h : Reads origin source pieces nodes) (hmem : node ∈ nodes) :
    ∃ piece ∈ pieces, piece.read origin source = .ok node :=
  exists_mem_of_mapM_eq_ok (mapM_eq_ok_iff.mpr h) hmem

theorem Piece.read_call_eq_ok_iff {body : List Char} {span : Span} {node : Node} :
    (Piece.call body span).read origin source = .ok node ↔
      ∃ invocation, Invocation.ofBody body = .ok invocation ∧
        node = .call ⟨invocation.function, invocation.arguments, origin, some span⟩ := by
  cases hbody : Invocation.ofBody body <;> simp [Piece.read, hbody, eq_comm]

/-- The nodes of a document are the pieces of its source. -/
theorem Document.parse_eq_ok_iff {d : Document} :
    Document.parse source origin = .ok d ↔
      Piece.Reads origin source ((leftmost source.toList).pieces .origin) d.nodes := by
  rw [Piece.Reads, ← mapM_eq_ok_iff, ← Piece.scan_eq_pieces_leftmost, Document.parse]
  obtain ⟨nodes⟩ := d
  cases (Piece.scan source.toList).mapM (Piece.read origin source) <;> simp [Except.map]

namespace Splitting

section Reads

variable {text body : List Char} {rest : Splitting} {nodes : List Node}

theorem reads_plain_iff : Piece.Reads origin source ((plain text).pieces p) nodes ↔
    nodes = [.text ⟨.ofList text, origin, some ⟨p, p.after text⟩⟩] := by
  simp [Piece.Reads, pieces, Piece.read, List.forall₂_cons_left_iff, eq_comm]

theorem reads_unclosed_iff {inside : List Char} :
    Piece.Reads origin source ((unclosed text inside).pieces p) nodes ↔
      nodes = [.text ⟨.ofList text, origin, some ⟨p, p.after text⟩⟩,
        .text ⟨.ofList inside, origin, some ⟨(p.after text).after ['{', '{'],
          ((p.after text).after ['{', '{']).after inside⟩⟩] := by
  simp [Piece.Reads, pieces, Piece.read, List.forall₂_cons_left_iff, eq_comm]

/-- The nodes of a splitting with a call are a text, the call, and the nodes of the rest. -/
theorem reads_call_iff : Piece.Reads origin source ((call text body rest).pieces p) nodes ↔
    ∃ i others, Invocation.ofBody body = .ok i ∧
      Piece.Reads origin source (rest.pieces ((p.after text).after (braced body))) others ∧
      nodes = .text ⟨.ofList text, origin, some ⟨p, p.after text⟩⟩ ::
        .call ⟨i.function, i.arguments, origin,
          some ⟨p.after text, (p.after text).after (braced body)⟩⟩ :: others := by
  rw [pieces_call]
  simp only [Piece.Reads, List.forall₂_cons_left_iff, Piece.read_call_eq_ok_iff]
  constructor
  · rintro ⟨_, _, hread, ⟨_, others, ⟨i, hbody, rfl⟩, hothers, rfl⟩, rfl⟩
    cases hread
    exact ⟨i, others, hbody, hothers, rfl⟩
  · rintro ⟨i, others, hbody, hothers, rfl⟩
    exact ⟨_, _, rfl, ⟨_, others, ⟨i, hbody, rfl⟩, hothers, rfl⟩, rfl⟩

end Reads

/-- What is read says what the splitting says. -/
theorem outline_of_reads {s : Splitting} {nodes : List Node}
    (h : Piece.Reads origin source (s.pieces p) nodes) :
    s.outline = .ok (nodes.map Node.outline) := by
  induction s generalizing p nodes with
  | plain text =>
    obtain rfl := reads_plain_iff.mp h
    rfl
  | unclosed text rest =>
    obtain rfl := reads_unclosed_iff.mp h
    rfl
  | call text body rest ih =>
    obtain ⟨i, others, hbody, hothers, rfl⟩ := reads_call_iff.mp h
    simp [outline, hbody, ih hothers, bind, Except.bind, pure, Except.pure, Node.outline]

/-- The pieces can be read exactly when the closed calls are spelled right. -/
theorem reads_iff {s : Splitting} :
    (∃ nodes, Piece.Reads origin source (s.pieces p) nodes) ↔
      ∀ body ∈ s.bodies, ∃ invocation, Invocation.ofBody body = .ok invocation := by
  induction s generalizing p with
  | plain text => simp [reads_plain_iff, bodies]
  | unclosed text rest => simp [reads_unclosed_iff, bodies]
  | call text body rest ih =>
    rw [bodies, List.forall_mem_cons, ← @ih ((p.after text).after (braced body))]
    simp only [reads_call_iff]
    constructor
    · rintro ⟨_, i, others, hbody, hothers, _⟩
      exact ⟨⟨i, hbody⟩, others, hothers⟩
    · rintro ⟨⟨i, hbody⟩, others, hothers⟩
      exact ⟨_, i, others, hbody, hothers, rfl⟩

/-- Texts stand in front of and behind every closed call, and one more text stands at the end if a
call is left open. -/
theorem isLeft_outline {s : Splitting} {parts : List (String ⊕ Invocation)}
    (h : s.outline = .ok parts) :
    parts.map Sum.isLeft =
      true :: (List.replicate s.bodies.length [false, true]).flatten ++
        if s.isUnclosed then [true] else [] := by
  induction s generalizing parts with
  | plain text => cases h; rfl
  | unclosed text rest => cases h; rfl
  | call text body rest ih =>
    -- The outline is known, so neither this call nor any behind it is misspelled.
    cases hbody : Invocation.ofBody body with
    | error failure => simp [outline, hbody, bind, Except.bind] at h
    | ok invocation =>
      cases hrest : rest.outline with
      | error failure => simp [outline, hbody, hrest, bind, Except.bind] at h
      | ok others =>
        simp only [outline, hbody, hrest, bind, Except.bind, pure, Except.pure,
          Except.ok.injEq] at h
        subst h
        simp only [List.map_cons, ih hrest, bodies, List.length_cons, List.replicate_succ,
          List.flatten_cons, List.cons_append, List.nil_append]
        rfl

end Splitting

/-- **Reading is cutting at the leftmost pairs.** When every closed call of the leftmost splitting
is spelled right, the source reads as a document that says what the splitting says; its nodes are
a text, then a call and a text for every closed call, and one more text exactly when a call is left
open. -/
theorem Document.outline_parse (source : String) (origin : Path)
    (spelled : ∀ body ∈ (leftmost source.toList).bodies,
      ∃ invocation, Invocation.ofBody body = .ok invocation) :
    ∃ d, Document.parse source origin = .ok d ∧
      (leftmost source.toList).outline = .ok d.outline ∧
      d.nodes.map Node.isText =
        true :: (List.replicate (leftmost source.toList).bodies.length [false, true]).flatten ++
          if (leftmost source.toList).isUnclosed then [true] else [] := by
  obtain ⟨nodes, hreads⟩ := reads_iff.mpr spelled
  have houtline := outline_of_reads hreads
  refine ⟨⟨nodes⟩, parse_eq_ok_iff.mpr hreads, houtline, ?_⟩
  rw [← isLeft_outline houtline, List.map_map]
  exact List.map_congr_left fun node _ => node.isText_eq_isLeft

/-- A source with braces that make no pair, a brace too many behind a call, a pair within a call,
and a call that is left open. -/
def hostileBraces : String :=
  "\x7ba\x7b\x7b f(1)\x7dx\x7d\x7d\x7d\x7b\x7bg(\"\x7b\x7b\")\x7d\x7d\x7b\x7b\x7d"

theorem Splitting.leftmost_hostileBraces :
    leftmost hostileBraces.toList =
      .call "\x7ba".toList " f(1)\x7dx".toList
        (.call "\x7d".toList "g(\"\x7b\x7b\")".toList (.unclosed [] "\x7d".toList)) := by
  have hlast : leftmost ('{' :: '{' :: "\x7d".toList) = .unclosed [] "\x7d".toList :=
    leftmost_unclosed_nil (by decide)
  have hsecond : leftmost ("\x7d".toList ++ '{' :: '{' ::
        ("g(\"\x7b\x7b\")".toList ++ '}' :: '}' :: '{' :: '{' :: "\x7d".toList)) =
      .call "\x7d".toList "g(\"\x7b\x7b\")".toList (.unclosed [] "\x7d".toList) := by
    rw [leftmost_call (by decide) (by decide), hlast]
  rw [← hsecond]
  exact leftmost_call (by decide : ¬ HasPair '{' ("\x7ba".toList ++ ['{']))
    (by decide : ¬ HasPair '}' (" f(1)\x7dx".toList ++ ['}']))

theorem Document.outline_parse_hostileBraces :
    (∀ body ∈ (leftmost hostileBraces.toList).bodies,
      ∃ invocation, Invocation.ofBody body = .ok invocation) ∧
    ∃ d, Document.parse hostileBraces .here = .ok d ∧
      d.outline =
        [.inl "\x7ba", .inr ⟨"f", [.number 1]⟩, .inl "\x7d", .inr ⟨"g", [.string "\x7b\x7b"]⟩,
          .inl "", .inl "\x7d"] := by
  have hspelled : ∀ body ∈ (leftmost hostileBraces.toList).bodies,
      ∃ invocation, Invocation.ofBody body = .ok invocation := by
    rw [leftmost_hostileBraces]
    simp only [bodies, List.forall_mem_cons]
    exact ⟨⟨⟨"f", [.number 1]⟩, rfl⟩, ⟨⟨"g", [.string "\x7b\x7b"]⟩, rfl⟩, by simp⟩
  obtain ⟨d, hparse, houtline, -⟩ := Document.outline_parse hostileBraces .here hspelled
  refine ⟨hspelled, d, hparse, ?_⟩
  rw [leftmost_hostileBraces] at houtline
  exact Except.ok.inj (houtline.symm.trans rfl)

end Transclude
