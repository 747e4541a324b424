import Transclude.Proofs.Expansion.Derivation
import Transclude.Proofs.Expansion.Inclusion
import Transclude.Proofs.Splitting.Tiling

/-!
# Where passages come from

With the standard registry nothing but files gets into what a document is expanded to. Every passage
stands in the document itself, or in a file that has been read and that including leads to from
there, file by file. It keeps the path of that file and its place there, so that it can be looked
up.

## Main definitions

* `FileTree.Reaches` — including leads from a source to the text of a file
* `Passage.IsOf` — a passage is a node of the document that a source spells
* `Passage.StandsIn` — what a passage tells of its place is true

## Main results

* `Passage.IsOf.standsIn` — passages of a document tell their places right
* `Expander.Completes.exists_isOf` — passages come from the nodes or from files that have been read
* `Expander.isPlaced_of_expand` — so they all have places
* `Expander.expand_provenance` — the same of whole expansions
-/

namespace Transclude

/-- Calls of `include` lead, one after the other, from the source of a document to the text of the
file at a path. Each one names a file as it is seen from the directory of the file it stands in. -/
inductive FileTree.Reaches (files : FileTree) (source : String) (origin : Path) :
    String → Path → Prop
  | start : files.Reaches source origin source origin
  | further {text path d c argument included} (hreaches : files.Reaches source origin text path)
      (hparse : Document.parse text path = .ok d) (hcall : .call c ∈ d.nodes)
      (hfunction : c.function = includeDescriptor.name)
      (harguments : c.arguments = [.path argument])
      (hread : files.readSource (path.parent.join argument) = .ok included) :
      files.Reaches source origin included (path.parent.join argument)

namespace Passage

/-- The passage is a node of the document that the source spells in a file. -/
def IsOf (t : Passage) (source : String) (origin : Path) : Prop :=
  ∃ d, Document.parse source origin = .ok d ∧ .text t ∈ d.nodes

/-- The passage tells the path of the file and its place in the source: the passage is what stands
there, and the positions are those of a reader who counts lines and columns. -/
def StandsIn (t : Passage) (source : String) (origin : Path) : Prop :=
  t.origin = origin ∧ ∃ span, t.span = some span ∧ span.slice source.toList = t.content.toList ∧
    span.start.IsTrue source.toList ∧ span.stop.IsTrue source.toList

variable {t : Passage} {source : String} {origin : Path}

/-- Passages of a document tell their places right. -/
theorem IsOf.standsIn (h : t.IsOf source origin) : t.StandsIn source origin := by
  obtain ⟨d, hparse, hmem⟩ := h
  obtain ⟨span, before, written, hspan, hholds, hspells⟩ := Document.exists_holds_of_mem hparse hmem
  refine ⟨Document.origin_of_parse hparse _ hmem, span, hspan, ?_, ?_, ?_⟩
  · rw [hholds.slice_eq]
    exact hspells.symm
  · exact hholds.start_isTrue
  · exact hholds.stop_isTrue

theorem IsOf.isSome_span (h : t.IsOf source origin) : t.span.isSome = true := by
  obtain ⟨-, span, hspan, -⟩ := h.standsIn
  rw [hspan]
  rfl

end Passage

namespace Expander

variable {e : Expander} {files : FileTree} {source text : String} {origin path : Path}
variable {room capacity : Nat} {limit : Option Int} {nodes : List Node} {events : List Event}
variable {passages : List Passage} {d produced : Document} {c : Call} {t : Passage}

/-- What a call produces is the document of a file that is read and that is reached with it. -/
theorem exists_reaches_of_dispatch (hregistry : e.registry = .standard files)
    (hreaches : files.Reaches source origin text path)
    (hparse : Document.parse text path = .ok d) (hcall : .call c ∈ d.nodes)
    (h : (e.dispatch c).result = .ok produced) :
    ∃ included next, c.AsksFor next ∧ files.Reaches source origin included next ∧
      files.readSource next = .ok included ∧ .including next ∈ (e.dispatch c).events ∧
      Document.parse included next = .ok produced := by
  obtain ⟨next, included, hasks, hevent, hread, hproduced⟩ := exists_asksFor_of_dispatch hregistry h
  refine ⟨included, next, hasks, ?_, hread, hevent, hproduced⟩
  obtain ⟨hfunction, argument, harguments, rfl⟩ := hasks
  have horigin : c.origin = path := Document.origin_of_parse hparse _ hcall
  rw [horigin] at hread ⊢
  exact .further hreaches hparse hcall hfunction harguments hread

/-- The passages come from the document in which the nodes stand, or from files that are read. -/
theorem Completes.exists_isOf (hregistry : e.registry = .standard files)
    (h : e.Completes room nodes events passages) (hreaches : files.Reaches source origin text path)
    (hparse : Document.parse text path = .ok d) (hnodes : nodes ⊆ d.nodes) (ht : t ∈ passages) :
    t.IsOf text path ∨
      ∃ included next, files.Reaches source origin included next ∧
        files.readSource next = .ok included ∧ .including next ∈ events ∧ t.IsOf included next := by
  induction h generalizing text path d with
  | nil => cases ht
  | text _ ih =>
    obtain ⟨hfirst, hrest⟩ := List.cons_subset.mp hnodes
    rcases List.mem_cons.mp ht with rfl | ht
    · exact .inl ⟨d, hparse, hfirst⟩
    · exact ih hreaches hparse hrest ht
  | @call _ c _ before _ inner _ others _ hdispatch _ _ ihinner ihrest =>
    obtain ⟨hcall, hrest⟩ := List.cons_subset.mp hnodes
    rcases List.mem_append.mp ht with ht | ht
    · -- The call reaches a file; the passage comes from there, or from further on.
      obtain ⟨included, next, -, hnext, hread, hevent, hproduced⟩ :=
        exists_reaches_of_dispatch hregistry hreaches hparse hcall (congrArg Run.result hdispatch)
      rw [hdispatch] at hevent
      right
      obtain hhere | ⟨included', next', hnext', hread', hevent', hthere⟩ :=
        ihinner hnext hproduced (List.Subset.refl _) ht
      · exact ⟨included, next, hnext, hread, by simp [hevent], hhere⟩
      · exact ⟨included', next', hnext', hread', by simp [hevent'], hthere⟩
    · obtain hhere | ⟨included, next, hnext, hread, hevent, hthere⟩ :=
        ihrest hreaches hparse hrest ht
      · exact .inl hhere
      · exact .inr ⟨included, next, hnext, hread, by simp [hevent], hthere⟩

/-- With the standard registry a document that is read is expanded to passages that have places. -/
theorem isPlaced_of_expand (hregistry : e.registry = .standard files)
    (hparse : Document.parse source origin = .ok d)
    (h : (e.expand limit capacity d).result = .ok passages) :
    (Document.ofPassages passages).isPlaced = true := by
  rw [expand_eq_expandNodes] at h
  obtain ⟨events, hcompletes⟩ := completes_of_expandNodes_eq_ok h
  simp only [Document.isPlaced, Document.ofPassages, List.all_map, List.all_eq_true]
  intro t ht
  obtain hhere | ⟨_, _, -, -, -, hthere⟩ :=
    hcompletes.exists_isOf hregistry .start hparse (List.Subset.refl _) ht
  · exact hhere.isSome_span
  · exact hthere.isSome_span

/-- **Passages can be traced to their sources.** Every passage that a document is expanded to with
the standard registry is a passage of the document, or of one that a file spells which has been read
and which including leads to. It tells the path of this file, and its place there. -/
theorem expand_provenance (hregistry : e.registry = .standard files)
    (hparse : Document.parse source origin = .ok d)
    (h : (e.expand limit capacity d).result = .ok passages) :
    ∀ t ∈ passages, ∃ text path,
      ((text = source ∧ path = origin) ∨
        files.Reaches source origin text path ∧ files.readSource path = .ok text ∧
          .including path ∈ (e.expand limit capacity d).events) ∧
      t.IsOf text path ∧ t.StandsIn text path := by
  intro t ht
  rw [expand_eq_expandNodes] at h ⊢
  obtain ⟨events, hcompletes⟩ := completes_of_expandNodes_eq_ok h
  rw [hcompletes.expandNodes_eq]
  obtain hhere | ⟨text, path, hreaches, hread, hevent, hthere⟩ :=
    hcompletes.exists_isOf hregistry .start hparse (List.Subset.refl _) ht
  · exact ⟨source, origin, .inl ⟨rfl, rfl⟩, hhere, hhere.standsIn⟩
  · exact ⟨text, path, .inr ⟨hreaches, hread, hevent⟩, hthere, hthere.standsIn⟩

/-- A file that includes another one, from the directory above its own. -/
def relayedFiles : FileTree where
  workingDirectory := []
  clock := 0
  pathLimit := none
  entries := [
    ([], .directory 0),
    (["docs"], .directory 0),
    (["docs", "a.md"], .file (Utf8.encode "A\r\n\x7b\x7binclude(#../b.md#)\x7d\x7d") 0),
    (["b.md"], .file (Utf8.encode "B") 0)]

/-- A source that includes the first of these files. -/
def relayedSource : String :=
  "\x7b\x7binclude(#docs/a.md#)\x7d\x7d"

/-- The document that the source spells. -/
def relayedDocument : Document where
  nodes := [
    .text ⟨"", Path.parse "input.md", some ⟨⟨1, 1, 0⟩, ⟨1, 1, 0⟩⟩⟩,
    .call ⟨"include", [.path (Path.parse "docs/a.md")], Path.parse "input.md",
      some ⟨⟨1, 1, 0⟩, ⟨1, 25, 24⟩⟩⟩,
    .text ⟨"", Path.parse "input.md", some ⟨⟨1, 25, 24⟩, ⟨1, 25, 24⟩⟩⟩]

/-- The passages of the source and of both files, with the empty ones beside the calls. -/
def relayedPassages : List Passage := [
  ⟨"", Path.parse "input.md", some ⟨⟨1, 1, 0⟩, ⟨1, 1, 0⟩⟩⟩,
  ⟨"A\n", Path.parse "docs/a.md", some ⟨⟨1, 1, 0⟩, ⟨2, 1, 2⟩⟩⟩,
  ⟨"B", Path.parse "docs/../b.md", some ⟨⟨1, 1, 0⟩, ⟨1, 2, 1⟩⟩⟩,
  ⟨"", Path.parse "docs/a.md", some ⟨⟨2, 23, 24⟩, ⟨2, 23, 24⟩⟩⟩,
  ⟨"", Path.parse "input.md", some ⟨⟨1, 25, 24⟩, ⟨1, 25, 24⟩⟩⟩]

/-- Every one of them can be traced, the one from two files away among them. -/
theorem expand_provenance_relayed :
    Document.parse relayedSource (Path.parse "input.md") = .ok relayedDocument ∧
      ((⟨.standard relayedFiles, true⟩ : Expander).expand none 2 relayedDocument).result =
        .ok relayedPassages ∧
      ∀ t ∈ relayedPassages, t.origin ≠ Path.parse "input.md" →
        ∃ text, relayedFiles.Reaches relayedSource (Path.parse "input.md") text t.origin ∧
          relayedFiles.readSource t.origin = .ok text ∧ t.StandsIn text t.origin := by
  have hparse : Document.parse relayedSource (Path.parse "input.md") = .ok relayedDocument := by
    decide +kernel
  have hexpand :
      ((⟨.standard relayedFiles, true⟩ : Expander).expand none 2 relayedDocument).result =
        .ok relayedPassages := by decide +kernel
  refine ⟨hparse, hexpand, ?_⟩
  intro t ht horigin
  obtain ⟨text, path, hknown, -, hstands⟩ := expand_provenance rfl hparse hexpand t ht
  obtain rfl := hstands.1
  obtain ⟨-, hpath⟩ | ⟨hreaches, hread, -⟩ := hknown
  · exact absurd hpath horigin
  · exact ⟨text, hreaches, hread, hstands⟩

end Expander

end Transclude
