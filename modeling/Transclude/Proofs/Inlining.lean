import Transclude.Proofs.Compilation
import Transclude.Proofs.Printing.Template

/-!
# Including a file is writing its text

A file of the same directory is included as if its text were written in place of the call. Its own
calls are then seen from the same directory, and its text is cut at the same braces, as long as no
pair of braces is made where it meets its surroundings and no call is left open in it or in front
of it.

## Main definitions

* `inclusion`, `printedInclusion` — the call that includes a file of the same directory, as a text
  and as a call that is printed
* `IsFileName` — a name that leads to a file of a directory

## Main results

* `FileTree.produces_include_iff` — a call of `include` produces the document of a file
* `FileTree.inserts_inclusion_iff` — the call comes to what the text of the file comes to
* `FileTree.compile_inclusion` — the call and the text compile to the same
-/

namespace Transclude

open Splitting

/-- The call that includes the file with that name. -/
def inclusion (name : String) : String :=
  "\x7b\x7binclude(#" ++ name ++ "#)\x7d\x7d"

/-- The same call as a call that is printed. -/
def printedInclusion (name : String) : PrintedCall :=
  ⟨[], "include", [⟨[], .path (Path.parse name), []⟩]⟩

/-- A name leads to a file of a directory if it is not the name of the directory itself. -/
def IsFileName (name : String) : Prop :=
  '/' ∉ name.toList ∧ name ≠ "" ∧ name ≠ "."

variable {name : String}

namespace IsFileName

theorem text_parse (h : IsFileName name) : (Path.parse name).text = name := by
  rw [Path.parse_name h.1 h.2, Path.text_name]

/-- The file stands in the directory that it is seen from. -/
theorem parent_join (h : IsFileName name) (directory : Path) :
    (directory.join (Path.parse name)).parent = directory := by
  rw [Path.parse_name h.1 h.2, Path.parent_join_single]

theorem body_printedInclusion (h : IsFileName name) :
    (printedInclusion name).body = "include(#".toList ++ (name.toList ++ "#)".toList) := by
  simp [PrintedCall.body, printedInclusion, PaddedValue.printed, Value.printed, Value.quoted,
    h.text_parse]

theorem toList_inclusion (h : IsFileName name) :
    (inclusion name).toList = braced (printedInclusion name).body := by
  simp [inclusion, braced, h.body_printedInclusion]

/-- The name makes no pair of braces with what stands around it. -/
theorem not_hasPair_printedInclusion (h : IsFileName name) (hpair : ¬ HasPair '}' name.toList) :
    ¬ HasPair '}' (printedInclusion name).body := by
  have hfront : ¬ HasPair '}' "include(#".toList := by decide
  have hback : ¬ HasPair '}' "#)".toList := by decide
  rw [h.body_printedInclusion, hasPair_append_iff, hasPair_append_iff]
  rintro (hinside | (hinside | hinside | ⟨-, hmeet⟩) | ⟨hmeet, -⟩)
  · exact hfront hinside
  · exact hpair hinside
  · exact hback hinside
  · exact absurd hmeet (by decide)
  · exact absurd hmeet (by decide)

theorem ofBody_printedInclusion (h : IsFileName name) (hquote : '#' ∉ name.toList) :
    Invocation.ofBody (printedInclusion name).body =
      .ok ⟨"include", [.path (Path.parse name)]⟩ := by
  have hvalue : Value.IsPrintable (.path (Path.parse name)) := by
    refine ⟨Path.isNormal_parse name, ?_⟩
    rwa [h.text_parse]
  have hprintable : (printedInclusion name).IsPrintable := by
    have hfunction : ∀ d ∈ "include".toList, isAlphanumeric d = true :=
      List.all_eq_true.mp (by decide)
    have hargument : PaddedValue.IsPrintable ⟨[], .path (Path.parse name), []⟩ :=
      ⟨by simp, hvalue, by simp⟩
    exact ⟨by simp [printedInclusion], hfunction, by simpa [printedInclusion] using hargument⟩
  exact PrintedCall.ofBody_body hprintable

end IsFileName

namespace FileTree

variable {files : FileTree} {directory origin path : Path}
variable {text before behind inserted out : String}

/-- A call of `include` produces the document that the file spells which its path leads to. -/
theorem produces_include_iff {span : Option Span} {produced : Document}
    (hread : files.readSource (origin.parent.join path) = .ok text) :
    (Registry.standard files).Produces ⟨"include", [.path path], origin, span⟩ produced ↔
      span.isSome ∧ Document.parse text (origin.parent.join path) = .ok produced := by
  have hfind : (Registry.standard files).find "include" =
      some (0, .ofFiles files, includeDescriptor) := rfl
  have hincluded : files.includedDocument (origin.parent.join path) = .ok produced ↔
      Document.parse text (origin.parent.join path) = .ok produced := by
    simp only [includedDocument, hread]
    cases Document.parse text (origin.parent.join path) <;> simp [Except.mapError]
  rw [← hincluded]
  constructor
  · rintro ⟨hspan, index, provider, descriptor, hfound, hinvoke⟩
    cases hfind.symm.trans hfound
    exact ⟨hspan, hinvoke⟩
  · rintro ⟨hspan, hproduced⟩
    exact ⟨hspan, 0, _, _, hfind, hproduced⟩

/-- The call comes to what the text of the file comes to. -/
theorem inserts_inclusion_iff (hname : IsFileName name) (hquote : '#' ∉ name.toList)
    (hread : files.readSource (directory.join (Path.parse name)) = .ok text) :
    (Registry.standard files).Inserts directory (printedInclusion name).body inserted ↔
      (leftmost text.toList).Compiles (Registry.standard files) directory inserted := by
  have hbody := hname.ofBody_printedInclusion hquote
  have hparent := hname.parent_join directory
  constructor
  · rintro ⟨⟨function, arguments, origin, span⟩, produced, calls, passages, hcall, rfl, hproduces,
      hexpands, rfl⟩
    obtain ⟨rfl, rfl⟩ : "include" = function ∧ [.path (Path.parse name)] = arguments := by
      simpa using hbody.symm.trans hcall
    obtain ⟨-, hparse⟩ := (produces_include_iff hread).mp hproduces
    have hcompiles := (compiles_iff_exists_nodes text .origin).mpr
      ⟨produced.nodes, calls, passages, Document.parse_eq_ok_iff.mp hparse, hexpands, rfl⟩
    rwa [hparent] at hcompiles
  · intro h
    -- The included file itself is in the directory, so the call may be taken to stand there.
    have hcompiles : (leftmost text.toList).Compiles (Registry.standard files)
        (directory.join (Path.parse name)).parent inserted := by rwa [hparent]
    obtain ⟨nodes, calls, passages, hreads, hexpands, rfl⟩ :=
      (compiles_iff_exists_nodes text .origin).mp hcompiles
    have hproduces : (Registry.standard files).Produces ⟨"include", [.path (Path.parse name)],
        directory.join (Path.parse name), some ⟨.origin, .origin⟩⟩ ⟨nodes⟩ := by
      rw [produces_include_iff (by rwa [hparent]), hparent]
      exact ⟨rfl, Document.parse_eq_ok_iff.mpr hreads⟩
    exact ⟨_, ⟨nodes⟩, calls, passages, hbody, hparent, hproduces, hexpands, rfl⟩

/-- From the call on, a source compiles to what it compiles to with the text of the file in place of
the call. -/
theorem compiles_leftmost_inclusion_iff {rest : List Char} (hname : IsFileName name)
    (hquote : '#' ∉ name.toList) (hpair : ¬ HasPair '}' name.toList)
    (hread : files.readSource (directory.join (Path.parse name)) = .ok text)
    (htext : (leftmost text.toList).isUnclosed = false) (hapart : Apart text.toList rest) :
    (leftmost ((inclusion name).toList ++ rest)).Compiles (Registry.standard files) directory out ↔
      (leftmost (text.toList ++ rest)).Compiles (Registry.standard files) directory out := by
  have hbody := PrintedCall.not_hasPair_concat (hname.not_hasPair_printedInclusion hpair)
  rw [hname.toList_inclusion, compiles_leftmost_braced_iff hbody,
    compiles_leftmost_append_iff htext hapart]
  simp only [inserts_inclusion_iff hname hquote hread]

/-- **Including a file of the same directory is writing its text.** Let a name without a number sign
and without a pair of closing braces be that of a readable file in the directory of a document. If
no call is left open in front of the call that includes the file or in the text of the file, and no
pair of opening braces is made where the text meets its surroundings, then the document compiles
with the call exactly when it compiles with the text in its place, and to the same. -/
theorem compile_inclusion (files : FileTree) (origin : Path) (before behind name text : String)
    (hname : IsFileName name) (hquote : '#' ∉ name.toList) (hpair : ¬ HasPair '}' name.toList)
    (hread : files.readSource (origin.parent.join (Path.parse name)) = .ok text)
    (hbefore : (leftmost before.toList).isUnclosed = false)
    (hlast : before.toList.getLast? ≠ some '{')
    (htext : (leftmost text.toList).isUnclosed = false)
    (hapart : Apart text.toList behind.toList) :
    ((∃ capacity out, (files.expander.compile none capacity
          (before ++ inclusion name ++ behind) origin).result = .ok out) ↔
      ∃ capacity out, (files.expander.compile none capacity
          (before ++ text ++ behind) origin).result = .ok out) ∧
    ∀ capacity capacity' out out',
      (files.expander.compile none capacity
        (before ++ inclusion name ++ behind) origin).result = .ok out →
      (files.expander.compile none capacity'
        (before ++ text ++ behind) origin).result = .ok out' → out = out' := by
  have hopen (rest : List Char) : Apart before.toList rest := fun h => hlast h.1
  have hsame (out : String) :
      (∃ capacity, (files.expander.compile none capacity
          (before ++ inclusion name ++ behind) origin).result = .ok out) ↔
        ∃ capacity, (files.expander.compile none capacity
          (before ++ text ++ behind) origin).result = .ok out := by
    rw [expander, Expander.exists_compile_eq_ok_iff, Expander.exists_compile_eq_ok_iff,
      String.append_assoc, String.append_assoc, String.toList_append, String.toList_append,
      String.toList_append, String.toList_append, compiles_leftmost_append_iff hbefore (hopen _),
      compiles_leftmost_append_iff hbefore (hopen _)]
    simp only [compiles_leftmost_inclusion_iff hname hquote hpair hread htext hapart]
  refine ⟨⟨?_, ?_⟩, ?_⟩
  · rintro ⟨capacity, out, h⟩
    obtain ⟨capacity', h'⟩ := (hsame out).mp ⟨capacity, h⟩
    exact ⟨capacity', out, h'⟩
  · rintro ⟨capacity, out, h⟩
    obtain ⟨capacity', h'⟩ := (hsame out).mpr ⟨capacity, h⟩
    exact ⟨capacity', out, h'⟩
  · intro capacity capacity' out out' h h'
    obtain ⟨_, hinlined⟩ := (hsame out).mp ⟨capacity, h⟩
    exact Expander.compile_unique hinlined h'

/-- A file that includes another one of its directory, and ends with an opening brace. -/
def nestedText : String :=
  "[\x7b\x7binclude(#b.md#)\x7d\x7d\x7b"

/-- The file and the other one, below the working directory. -/
def nestedFiles : FileTree where
  workingDirectory := []
  clock := 0
  pathLimit := none
  entries := [
    ([], .directory 0),
    (["docs"], .directory 0),
    (["docs", "a.md"], .file (Utf8.encode nestedText) 0),
    (["docs", "b.md"], .file (Utf8.encode "B\x7d") 0)]

theorem leftmost_nestedText :
    leftmost nestedText.toList = .call ['['] "include(#b.md#)".toList (.plain ['\x7b']) := by
  have hlast : leftmost ['\x7b'] = .plain ['\x7b'] := leftmost_plain (by decide)
  rw [← hlast]
  exact leftmost_call (by decide : ¬ HasPair '{' (['['] ++ ['{']))
    (by decide : ¬ HasPair '}' ("include(#b.md#)".toList ++ ['}']))

/-- The text compiles to the same as the call, with what it includes in its turn. -/
theorem compile_inclusion_nested :
    (nestedFiles.expander.compile none 2 ("\x7b " ++ inclusion "a.md" ++ "x\x7b\x7b")
        (Path.parse "docs/input.md")).result = .ok "\x7b [B\x7d\x7bx" ∧
      ∃ capacity, (nestedFiles.expander.compile none capacity ("\x7b " ++ nestedText ++ "x\x7b\x7b")
        (Path.parse "docs/input.md")).result = .ok "\x7b [B\x7d\x7bx" := by
  have hcall : (nestedFiles.expander.compile none 2 ("\x7b " ++ inclusion "a.md" ++ "x\x7b\x7b")
      (Path.parse "docs/input.md")).result = .ok "\x7b [B\x7d\x7bx" := by decide +kernel
  have hclosed : leftmost "\x7b ".toList = .plain "\x7b ".toList := leftmost_plain (by decide)
  obtain ⟨hiff, hsame⟩ := compile_inclusion nestedFiles (Path.parse "docs/input.md") "\x7b "
    "x\x7b\x7b" "a.md" nestedText ⟨by decide, by decide, by decide⟩ (by decide) (by decide)
    (by decide +kernel) (by rw [hclosed]; rfl) (by decide) (by rw [leftmost_nestedText]; rfl)
    (by decide +kernel)
  obtain ⟨capacity, out, h⟩ := hiff.mp ⟨2, _, hcall⟩
  obtain rfl := hsame _ _ _ _ hcall h
  exact ⟨hcall, capacity, h⟩

end FileTree

end Transclude
