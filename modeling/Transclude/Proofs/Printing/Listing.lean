import Transclude.Proofs.Printing.Line
import Transclude.Proofs.Splitting.Tiling

/-!
# Listings lose nothing

A document that is read from a source can be told from its listing, but for the offsets of its
positions. The lines of a listing are its nodes, since no line of it is broken as long as the path
of the file is not. Each line tells what its node says and where it starts. Where a node ends is not
listed, but it can be told: a text ends behind its content, and a call where the text behind it
starts.

## Main definitions

* `Document.withoutOffsets` — what a listing tells of a document

## Main results

* `Splitting.withoutOffsets_eq_of_listing_eq` — nodes that are listed alike end at the same places
* `lines_inj` — lines without line feeds can be told from the text in which line feeds end them
* `Document.list_loses_nothing` — documents of a file are listed alike only if they are the same but
  for offsets, and a listing has one line for each node
-/

namespace Transclude

open Splitting

/-! ### Ends of nodes -/

/-- The span with the offsets left out. -/
def Span.withoutOffsets (span : Span) : Span :=
  ⟨span.start.withoutOffset, span.stop.withoutOffset⟩

/-- The node with the offsets of its place left out. -/
def Node.withoutOffsets : Node → Node
  | .text t => .text { t with span := t.span.map Span.withoutOffsets }
  | .call c => .call { c with span := c.span.map Span.withoutOffsets }

/-- The document with all offsets left out. -/
def Document.withoutOffsets (d : Document) : Document :=
  ⟨d.nodes.map Node.withoutOffsets⟩

variable {origin : Path} {source source' : String} {p p' : Position}

/-- Where a text ends does not depend on the offset at which it starts, but for the offset. -/
theorem Position.withoutOffset_after_eq (h : p.withoutOffset = p'.withoutOffset) (cs : List Char) :
    (p.after cs).withoutOffset = (p'.after cs).withoutOffset := by
  induction cs generalizing p p' with
  | nil => exact h
  | cons c cs ih =>
    refine ih ?_
    simp only [withoutOffset, mk.injEq, and_true] at h
    unfold advance
    split <;> simp [withoutOffset, h]

/-- The line of a text also tells where the text ends. -/
theorem Node.withoutOffsets_text_eq {content content' : List Char}
    (h : (Node.text ⟨.ofList content, origin, some ⟨p, p.after content⟩⟩).listing =
      (Node.text ⟨.ofList content', origin, some ⟨p', p'.after content'⟩⟩).listing) :
    p.withoutOffset = p'.withoutOffset ∧
      (Node.text ⟨.ofList content, origin, some ⟨p, p.after content⟩⟩).withoutOffsets =
        (Node.text ⟨.ofList content', origin, some ⟨p', p'.after content'⟩⟩).withoutOffsets := by
  obtain ⟨hcontent, hstart⟩ := Node.eq_of_listing_text_eq h
  obtain rfl := String.ofList_injective hcontent
  refine ⟨hstart, ?_⟩
  simp only [Node.withoutOffsets, Option.map_some, Span.withoutOffsets, hstart,
    Position.withoutOffset_after_eq hstart content]

namespace Splitting

variable {s s' : Splitting} {nodes nodes' : List Node}

/-- Nodes that are listed alike are the same but for offsets. The place at which a text ends is told
by its content, and the place at which a call ends is the one at which the next text starts. -/
theorem withoutOffsets_eq_of_listing_eq (h : Piece.Reads origin source (s.pieces p) nodes)
    (h' : Piece.Reads origin source' (s'.pieces p') nodes')
    (hlines : nodes.map Node.listing = nodes'.map Node.listing) :
    p.withoutOffset = p'.withoutOffset ∧
      nodes.map Node.withoutOffsets = nodes'.map Node.withoutOffsets := by
  induction s generalizing p p' s' nodes nodes' with
  | plain text =>
    obtain rfl := reads_plain_iff.mp h
    cases s' with
    | plain text' =>
      obtain rfl := reads_plain_iff.mp h'
      simp only [List.map_cons, List.map_nil, List.cons.injEq, and_true] at hlines ⊢
      exact Node.withoutOffsets_text_eq hlines
    | unclosed text' inside' =>
      obtain rfl := reads_unclosed_iff.mp h'
      simp at hlines
    | call text' body' rest' =>
      obtain ⟨_, _, -, -, rfl⟩ := reads_call_iff.mp h'
      simp at hlines
  | unclosed text inside =>
    obtain rfl := reads_unclosed_iff.mp h
    cases s' with
    | plain text' =>
      obtain rfl := reads_plain_iff.mp h'
      simp at hlines
    | unclosed text' inside' =>
      obtain rfl := reads_unclosed_iff.mp h'
      simp only [List.map_cons, List.map_nil, List.cons.injEq, and_true] at hlines ⊢
      obtain ⟨hstart, htext⟩ := Node.withoutOffsets_text_eq hlines.1
      exact ⟨hstart, htext, (Node.withoutOffsets_text_eq hlines.2).2⟩
    | call text' body' rest' =>
      -- There is another text behind the first one here, and a call there.
      obtain ⟨_, _, -, -, rfl⟩ := reads_call_iff.mp h'
      simp only [List.map_cons, List.cons.injEq] at hlines
      exact absurd hlines.2.1 Node.listing_text_ne_call
  | call text body rest ih =>
    obtain ⟨i, others, hbody, hothers, rfl⟩ := reads_call_iff.mp h
    cases s' with
    | plain text' =>
      obtain rfl := reads_plain_iff.mp h'
      simp at hlines
    | unclosed text' inside' =>
      obtain rfl := reads_unclosed_iff.mp h'
      simp only [List.map_cons, List.cons.injEq] at hlines
      exact absurd hlines.2.1.symm Node.listing_text_ne_call
    | call text' body' rest' =>
      obtain ⟨i', others', hbody', hothers', rfl⟩ := reads_call_iff.mp h'
      simp only [List.map_cons, List.cons.injEq] at hlines ⊢
      obtain ⟨htext, hcall, hrest⟩ := hlines
      obtain ⟨hstart, htext⟩ := Node.withoutOffsets_text_eq htext
      obtain ⟨rfl, hopened⟩ := Node.eq_of_listing_call_eq
        (Invocation.isNormal_of_ofBody hbody) (Invocation.isNormal_of_ofBody hbody') hcall
      -- The calls end where the rests start, and the first texts of the rests tell where that is.
      obtain ⟨hstop, hrest⟩ := ih hothers hothers' hrest
      refine ⟨hstart, htext, ?_, hrest⟩
      simp only [Node.withoutOffsets, Option.map_some, Span.withoutOffsets, hopened, hstop]

end Splitting

/-! ### Listings -/

/-- Lines that hold no line feed can be told from the text in which line feeds end them. -/
theorem lines_inj {lines lines' : List (List Char)} (h : ∀ line ∈ lines, '\n' ∉ line)
    (h' : ∀ line ∈ lines', '\n' ∉ line)
    (heq : lines.flatMap (· ++ ['\n']) = lines'.flatMap (· ++ ['\n'])) : lines = lines' := by
  induction lines generalizing lines' with
  | nil =>
    cases lines' with
    | nil => rfl
    | cons line' lines' => simp at heq
  | cons line lines ih =>
    cases lines' with
    | nil => simp at heq
    | cons line' lines' =>
      simp only [List.flatMap_cons, List.append_assoc, List.singleton_append] at heq
      obtain ⟨hline, hrest⟩ := List.forall_mem_cons.mp h
      obtain ⟨hline', hrest'⟩ := List.forall_mem_cons.mp h'
      obtain ⟨rfl, -, hbehind⟩ := append_cons_inj heq hline' hline
      rw [ih hrest hrest' hbehind]

namespace Document

variable {d d' : Document} {title : String}

theorem toList_listing (d : Document) (title : String) :
    (d.listing title).toList =
      title.toList ++
        '\n' :: (d.nodes.map fun node => node.listing.toList).flatMap (· ++ ['\n']) := by
  simp [listing, String.toList_join, List.flatMap_map]

/-- A document that is read can be listed. -/
theorem list_eq_of_parse (h : Document.parse source origin = .ok d) (title : String) :
    d.list title = .ok (d.listing title) :=
  if_pos (isPlaced_of_parse h)

/-- The line of a node breaks only where the path of the file does. -/
theorem mem_origin_of_isLineBreak (h : Document.parse source origin = .ok d) {node : Node}
    (hnode : node ∈ d.nodes) {c : Char} (hmem : c ∈ node.listing.toList)
    (hbreak : isLineBreak c = true) : c ∈ origin.text.toList := by
  obtain ⟨piece, -, hread⟩ := (parse_eq_ok_iff.mp h).exists_of_mem hnode
  obtain ⟨front, behind, hlisting, hfront, hbehind⟩ := Node.exists_listing_eq hread
  rw [hlisting, List.mem_append, List.mem_append] at hmem
  rcases hmem with hmem | hmem | hmem
  · rw [hfront c hmem] at hbreak
    contradiction
  · exact hmem
  · rw [hbehind c hmem] at hbreak
    contradiction

/-- If the path of the file holds no line feed, then no line of a listing does. -/
theorem newline_notMem_listing (horigin : '\n' ∉ origin.text.toList)
    (h : Document.parse source origin = .ok d) {node : Node} (hnode : node ∈ d.nodes) :
    '\n' ∉ node.listing.toList := fun hmem =>
  horigin (mem_origin_of_isLineBreak h hnode hmem (by decide))

/-- Listings are the same only if they have the same lines. -/
theorem map_listing_eq_of_listing_eq (horigin : '\n' ∉ origin.text.toList)
    (h : Document.parse source origin = .ok d) (h' : Document.parse source' origin = .ok d')
    (heq : d.listing title = d'.listing title) :
    d.nodes.map Node.listing = d'.nodes.map Node.listing := by
  have hlines := congrArg String.toList heq
  rw [toList_listing, toList_listing] at hlines
  have hnewline {source : String} {d : Document} (h : Document.parse source origin = .ok d) :
      ∀ line ∈ d.nodes.map fun node => node.listing.toList, '\n' ∉ line := by
    intro line hline
    obtain ⟨node, hnode, rfl⟩ := List.mem_map.mp hline
    exact newline_notMem_listing horigin h hnode
  have hlines := lines_inj (hnewline h) (hnewline h')
    (List.cons.inj (List.append_cancel_left hlines)).2
  refine List.map_injective_iff.mpr (fun _ _ => String.toList_inj.mp) ?_
  simpa only [List.map_map, Function.comp_def] using hlines

/-- Offsets are not listed. -/
theorem list_withoutOffsets (d : Document) (title : String) :
    d.withoutOffsets.list title = d.list title := by
  have hlisting (node : Node) : node.withoutOffsets.listing = node.listing := by
    rcases node with ⟨content, origin, _ | span⟩ | ⟨function, arguments, origin, _ | span⟩ <;> rfl
  have hspan (node : Node) : node.withoutOffsets.span.isSome = node.span.isSome := by
    rcases node with ⟨content, origin, _ | span⟩ | ⟨function, arguments, origin, _ | span⟩ <;> rfl
  simp [list, listing, isPlaced, withoutOffsets, hlisting, hspan, Function.comp_def]

/-- **Listings lose nothing but offsets.** If the path of a file breaks no line, then two sources
that are read as documents of that file are listed alike under a title exactly if the documents have
the same nodes in the same order, with the same kinds, contents, functions and arguments, and with
the same lines and columns at both ends. A listing is the title and one line for each node,
whatever the contents and arguments hold. -/
theorem list_loses_nothing (horigin : '\n' ∉ origin.text.toList)
    (h : Document.parse source origin = .ok d) (h' : Document.parse source' origin = .ok d')
    (title : String) :
    (d.list title = d'.list title ↔ d.withoutOffsets = d'.withoutOffsets) ∧
    ∃ lines : List String,
      d.list title = .ok (title ++ "\n" ++ String.join (lines.map (· ++ "\n"))) ∧
      lines.length = d.nodes.length ∧
      ∀ line ∈ lines, '\n' ∉ line.toList ∧
        ∀ c ∈ line.toList, isLineBreak c = true → c ∈ origin.text.toList := by
  refine ⟨⟨fun heq => ?_, fun heq => ?_⟩, d.nodes.map Node.listing, ?_, by simp, ?_⟩
  · rw [list_eq_of_parse h, list_eq_of_parse h'] at heq
    have hlines := map_listing_eq_of_listing_eq horigin h h' (Except.ok.inj heq)
    exact congrArg Document.mk (withoutOffsets_eq_of_listing_eq (parse_eq_ok_iff.mp h)
      (parse_eq_ok_iff.mp h') hlines).2
  · rw [← list_withoutOffsets d, heq, list_withoutOffsets]
  · rw [list_eq_of_parse h, listing, List.map_cons, String.join_cons]
  · intro line hline
    obtain ⟨node, hnode, rfl⟩ := List.mem_map.mp hline
    exact ⟨newline_notMem_listing horigin h hnode, fun c => mem_origin_of_isLineBreak h hnode⟩

/-- A text with a quote and a line feed, and a call with a blank in front of its name. -/
def blankInFront : String :=
  "it's\n\x7b\x7b f(\"a\nb\", #x#)\n\x7d\x7d"

/-- The same text and the same call, which is spelled with a longer path instead. -/
def longerPath : String :=
  "it's\n\x7b\x7bf(\"a\nb\", #./x#)\n\x7d\x7d"

/-- The two documents are listed alike; they are not the same, but they differ in offsets only. -/
theorem list_loses_nothing_longerPath :
    ∃ d d', Document.parse blankInFront (Path.parse "in.md") = .ok d ∧
      Document.parse longerPath (Path.parse "in.md") = .ok d' ∧ d ≠ d' ∧
      d.list "Document" = .ok ("Document\n  Text(\"it's\\n\") @ in.md:1:1\n" ++
        "  Call f(String('a\\nb'), Path('x')) @ in.md:2:1\n  Text('') @ in.md:4:3\n") ∧
      d.withoutOffsets = d'.withoutOffsets := by
  let d : Document := ⟨[
    .text ⟨"it's\n", Path.parse "in.md", some ⟨⟨1, 1, 0⟩, ⟨2, 1, 5⟩⟩⟩,
    .call ⟨"f", [.string "a\nb", .path (Path.parse "x")], Path.parse "in.md",
      some ⟨⟨2, 1, 5⟩, ⟨4, 3, 24⟩⟩⟩,
    .text ⟨"", Path.parse "in.md", some ⟨⟨4, 3, 24⟩, ⟨4, 3, 24⟩⟩⟩]⟩
  let d' : Document := ⟨[
    .text ⟨"it's\n", Path.parse "in.md", some ⟨⟨1, 1, 0⟩, ⟨2, 1, 5⟩⟩⟩,
    .call ⟨"f", [.string "a\nb", .path (Path.parse "x")], Path.parse "in.md",
      some ⟨⟨2, 1, 5⟩, ⟨4, 3, 25⟩⟩⟩,
    .text ⟨"", Path.parse "in.md", some ⟨⟨4, 3, 25⟩, ⟨4, 3, 25⟩⟩⟩]⟩
  have hparse : Document.parse blankInFront (Path.parse "in.md") = .ok d := rfl
  have hparse' : Document.parse longerPath (Path.parse "in.md") = .ok d' := rfl
  have hlist : d.list "Document" = d'.list "Document" := by decide +kernel
  refine ⟨d, d', hparse, hparse', by decide, by decide +kernel, ?_⟩
  exact (list_loses_nothing (by decide) hparse hparse' "Document").1.mp hlist

end Document

end Transclude
