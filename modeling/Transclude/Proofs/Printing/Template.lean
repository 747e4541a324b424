import Transclude.Proofs.Printing.Call
import Transclude.Proofs.Splitting.Misspelling

/-!
# Printed documents

A document is printed as its texts, with its calls between braces where they stand. Reading what is
printed gives the texts and the calls back, unless some text or call brings braces of its own that
make a pair with others.

## Main definitions

* `Template` — texts with printed calls between them
* `Template.printed` — the source that a template is printed as
* `Template.nodes` — the nodes of a template, at the places where they are printed
* `Template.IsPrintable` — no pair of braces but those of the calls comes up

## Main results

* `Template.leftmost_printed` — what is printed is cut at the braces of its calls
* `Document.parse_printed` — reading undoes printing
-/

namespace Transclude

open Splitting

/-- The last character of a call is no brace. -/
theorem PrintedCall.not_hasPair_concat {c : PrintedCall} (h : ¬ HasPair '}' c.body) :
    ¬ HasPair '}' (c.body ++ ['}']) := by
  have hlast : c.body.getLast? = some ')' := by
    rw [body, ← List.cons_append, ← List.append_assoc, ← List.append_assoc,
      List.getLast?_concat]
  rw [hasPair_concat_iff, hlast]
  simp [h]

/-- Texts with calls between them, as they are printed. -/
inductive Template
  /-- The last text. -/
  | plain (content : String)
  /-- A text with a call behind it, and the rest. -/
  | call (content : String) (printed : PrintedCall) (rest : Template)

namespace Template

/-- The characters that a template is printed as. -/
def printed : Template → List Char
  | plain content => content.toList
  | call content c rest => content.toList ++ braced c.body ++ rest.printed

/-- The nodes of a template that is printed behind the characters `before`, in the document
`origin`: each of them has the place where it is printed. -/
def nodes (origin : Path) (before : List Char) : Template → List Node
  | plain content => [.text ⟨content, origin, some (Span.behind before content.toList)⟩]
  | call content c rest =>
    let opened := before ++ content.toList
    .text ⟨content, origin, some (Span.behind before content.toList)⟩ ::
      .call ⟨c.function, c.arguments.map PaddedValue.value, origin,
        some (Span.behind opened (braced c.body))⟩ ::
      rest.nodes origin (opened ++ braced c.body)

/-- No text holds a pair of opening braces or makes one with a call behind it, and every call is
spelled right and holds no pair of closing braces. -/
def IsPrintable : Template → Prop
  | plain content => ¬ HasPair '{' content.toList
  | call content c rest =>
    (¬ HasPair '{' content.toList ∧ content.toList.getLast? ≠ some '{') ∧
      (c.IsPrintable ∧ ¬ HasPair '}' c.body) ∧ rest.IsPrintable

instance decidableIsPrintable : (t : Template) → Decidable t.IsPrintable
  | plain content => inferInstanceAs (Decidable (¬ HasPair '{' content.toList))
  | call content c rest =>
    have := decidableIsPrintable rest
    inferInstanceAs (Decidable
      ((¬ HasPair '{' content.toList ∧ content.toList.getLast? ≠ some '{') ∧
        (c.IsPrintable ∧ ¬ HasPair '}' c.body) ∧ rest.IsPrintable))

/-- The texts and the calls as parts of a splitting. -/
def splitting : Template → Splitting
  | plain content => .plain content.toList
  | call content c rest => .call content.toList c.body rest.splitting

/-- What is printed is cut at the braces of its calls. -/
theorem leftmost_printed {t : Template} (h : t.IsPrintable) : leftmost t.printed = t.splitting := by
  induction t with
  | plain content => exact leftmost_plain h
  | call content c rest ih =>
    obtain ⟨⟨hcontent, hlast⟩, ⟨-, hbody⟩, hrest⟩ := h
    have hopen : ¬ HasPair '{' (content.toList ++ ['{']) := by
      simp [hasPair_concat_iff, hcontent, hlast]
    -- The braces around the call are the leftmost pairs, so the rest is cut by itself.
    have hprinted : (Template.call content c rest).printed =
        content.toList ++ '{' :: '{' :: (c.body ++ '}' :: '}' :: rest.printed) := by
      simp [printed, braced]
    rw [hprinted, leftmost_call hopen (PrintedCall.not_hasPair_concat hbody), ih hrest, splitting]

/-- The pieces of what is printed are read as the nodes of the template. -/
theorem reads_nodes {t : Template} (h : t.IsPrintable) (origin : Path) (source : String)
    (before : List Char) :
    Piece.Reads origin source (t.splitting.pieces (Position.origin.after before))
      (t.nodes origin before) := by
  induction t generalizing before with
  | plain content =>
    refine .cons ?_ .nil
    simp [Piece.read, Span.behind, Position.after_append]
  | call content c rest ih =>
    obtain ⟨-, ⟨hcall, -⟩, hrest⟩ := h
    have hbehind := ih hrest (before ++ content.toList ++ braced c.body)
    rw [Position.after_append, Position.after_append] at hbehind
    refine .cons ?_ (.cons ?_ hbehind)
    · simp [Piece.read, Span.behind, Position.after_append]
    · rw [Piece.read_call_eq_ok_iff]
      refine ⟨c.invocation, PrintedCall.ofBody_body hcall, ?_⟩
      simp [PrintedCall.invocation, Span.behind, Position.after_append, braced]

end Template

/-- **Reading undoes printing.** What a template is printed as reads as its texts and its calls, in
order, each with its content or its name and its arguments, at the place where it is printed. -/
theorem Document.parse_printed (t : Template) (origin : Path) (h : t.IsPrintable) :
    Document.parse (String.ofList t.printed) origin = .ok ⟨t.nodes origin []⟩ := by
  have hreads := Template.reads_nodes h origin (String.ofList t.printed) []
  rw [Document.parse_eq_ok_iff, String.toList_ofList, Template.leftmost_printed h]
  exact hreads

/-- Texts with braces that make no pair, around a call whose literals hold commas, parentheses, a
brace and each other's delimiters, and a call without a name. -/
def hostileTemplate : Template :=
  .call "a\x7bb"
    ⟨['\u2003'], "include",
      [⟨[' '], .path (Path.parse "a \"b\", (c).md"), [' ']⟩, ⟨['\t'], .string "1#,) \x7b", [' ']⟩,
        ⟨[], .number (-42), ['\u3000']⟩]⟩
    (.call "\x7d" ⟨[], "", []⟩ (.plain "\x7b"))

theorem Document.parse_printed_hostileTemplate :
    hostileTemplate.IsPrintable ∧
    ∃ d, Document.parse ("a\x7bb\x7b\x7b\u2003include( #a \"b\", (c).md# ,\t\"1#,) \x7b\" ," ++
        "-42\u3000)\x7d\x7d\x7d\x7b\x7b()\x7d\x7d\x7b") .here = .ok d ∧
      d.outline =
        [.inl "a\x7bb",
          .inr ⟨"include", [.path ⟨.relative, ["a \"b\", (c).md"]⟩, .string "1#,) \x7b",
            .number (-42)]⟩,
          .inl "\x7d", .inr ⟨"", []⟩, .inl "\x7b"] := by
  have hprintable : hostileTemplate.IsPrintable := by decide +kernel
  have hparse := Document.parse_printed hostileTemplate .here hprintable
  have hprinted : String.ofList hostileTemplate.printed =
      "a\x7bb\x7b\x7b\u2003include( #a \"b\", (c).md# ,\t\"1#,) \x7b\" ," ++
        "-42\u3000)\x7d\x7d\x7d\x7b\x7b()\x7d\x7d\x7b" := by decide +kernel
  rw [hprinted] at hparse
  exact ⟨hprintable, _, hparse, by decide +kernel⟩

end Transclude
