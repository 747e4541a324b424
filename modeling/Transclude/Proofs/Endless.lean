import Mathlib.Data.List.Forall2
import Mathlib.Logic.Relation
import Transclude.Proofs.Expansion.Exhaustion
import Transclude.Proofs.Expansion.Inclusion
import Transclude.Proofs.FileTree.Following

/-!
# Endless expansion over a finite file tree

What an included file is expanded to depends on the place of the file, and not on the path that it
was reached by. So of files that are included one within the other, two at the same place need the
same room; and where an expansion ends at all, the room that is needed becomes less from file to
file. There are only so many files: an expansion that ends nests no deeper than there are files, and
one that nests deeper never ends.

## Main definitions

* `FileTree.SpellsAt` — the document that the file at a place spells
* `FileTree.IncludedIn`, `FileTree.Includes` — nodes, or a file, include the file at a place
* `FileTree.LeadsTo`, `FileTree.IsAcyclicFrom` — the files that can be come to, and that none of
  them includes itself in the end

## Main results

* `FileTree.length_le_fileCount` — there are no more places with files than files
* `FileTree.simulation_of_place` — what is included does not depend on the way to it
* `FileTree.le_fileCount_of_justExhausts` — an expansion that ends nests no deeper than there are
  files
* `FileTree.le_fileCount_of_isAcyclicFrom` — neither does one without a cycle
* `FileTree.expand_of_fileCount` — whether an expansion ends shows with a limit of one more than
  there are files
-/

namespace Transclude.FileTree

/-- The file at the place spells the document, when it is reached by some path. -/
def SpellsAt (t : FileTree) (place : Place) (d : Document) : Prop :=
  ∃ path source, t.follow path = .ok place ∧ t.readSource path = .ok source ∧
    Document.parse source path = .ok d

/-- A call among the nodes includes what stands at the place. -/
def IncludedIn (t : FileTree) (nodes : List Node) (place : Place) : Prop :=
  ∃ c path, .call c ∈ nodes ∧ c.AsksFor path ∧ t.follow path = .ok place

/-- The file at one place includes what stands at another. -/
def Includes (t : FileTree) (outer inner : Place) : Prop :=
  ∃ d, t.SpellsAt outer d ∧ t.IncludedIn d.nodes inner

/-- Including files one within the other leads from the nodes to the place. -/
def LeadsTo (t : FileTree) (nodes : List Node) (place : Place) : Prop :=
  ∃ first, t.IncludedIn nodes first ∧ Relation.ReflTransGen t.Includes first place

/-- No file that the nodes lead to includes itself in the end. -/
def IsAcyclicFrom (t : FileTree) (nodes : List Node) : Prop :=
  ∀ place, t.LeadsTo nodes place → ¬ Relation.TransGen t.Includes place place

/-- Two calls are the same, but that paths to the file they come from may differ. -/
def CallsAlike (t : FileTree) (c c' : Call) : Prop :=
  (c'.function = c.function ∧ c'.arguments = c.arguments ∧ c'.span = c.span) ∧
    ∃ place, t.HoldsFile place ∧ t.follow c.origin = .ok place ∧ t.follow c'.origin = .ok place

variable {t : FileTree} {e : Expander} {place : Place} {d d' : Document} {nodes : List Node}
variable {c c' innermost : Call} {chain : List Call} {room : Nat} {limit : Int} {capacity : Nat}

/-- There are no more places that hold files than there are files. -/
theorem length_le_fileCount {places : List Place} (hnodup : places.Nodup)
    (h : ∀ place ∈ places, t.HoldsFile place) : places.length ≤ t.fileCount := by
  have hsubset : places ⊆ (t.entries.filter (·.2.isFile)).map Prod.fst := by
    intro place hplace
    obtain ⟨content, time, hentry⟩ := h place hplace
    obtain ⟨before, behind, hentries, -⟩ := List.lookup_eq_some_iff.mp hentry
    rw [List.mem_map]
    refine ⟨(place, .file content time), ?_, rfl⟩
    simp [hentries, Entry.isFile]
  have hlength := (List.subperm_of_subset hnodup hsubset).length_le
  rwa [List.length_map, ← List.countP_eq_length_filter] at hlength

namespace SpellsAt

theorem holdsFile (h : t.SpellsAt place d) : t.HoldsFile place := by
  obtain ⟨path, source, hfollow, hread, -⟩ := h
  obtain ⟨_, hfollow', hfile⟩ := exists_follow_of_readSource hread
  cases hfollow.symm.trans hfollow'
  exact hfile

/-- Documents that the same file spells are the same, but for the paths to the file. -/
theorem forall₂_matches (h : t.SpellsAt place d) (h' : t.SpellsAt place d') :
    List.Forall₂ (Node.Matches (fun _ _ => True) t.CallsAlike) d.nodes d'.nodes := by
  have hfile := h.holdsFile
  obtain ⟨path, source, hfollow, hread, hparse⟩ := h
  obtain ⟨path', source', hfollow', hread', hparse'⟩ := h'
  have hsource : source = source' := by
    have hsame := readSource_congr (find_congr (hfollow'.trans hfollow.symm))
    rw [hread, hread'] at hsame
    exact (Except.ok.inj hsame).symm
  subst hsource
  obtain rfl := Except.ok.inj ((Document.parse_withOrigin hparse path').symm.trans hparse')
  rw [List.forall₂_map_right_iff, List.forall₂_same]
  intro node hnode
  have horigin := Document.origin_of_parse hparse node hnode
  cases node with
  | text _ => exact .text trivial
  | call c =>
    refine .call ⟨⟨rfl, rfl, rfl⟩, place, hfile, ?_, hfollow'⟩
    rwa [show c.origin = path from horigin]

end SpellsAt

theorem CallsAlike.symm (h : t.CallsAlike c c') : t.CallsAlike c' c := by
  obtain ⟨⟨hfunction, harguments, hspan⟩, place, hfile, hfollow, hfollow'⟩ := h
  exact ⟨⟨hfunction.symm, harguments.symm, hspan.symm⟩, place, hfile, hfollow', hfollow⟩

/-- What a call produces is spelled by the file at a place that it includes. -/
theorem exists_spellsAt_of_dispatch (hregistry : e.registry = .standard t)
    (h : (e.dispatch c).result = .ok d) :
    ∃ path place, c.AsksFor path ∧ t.follow path = .ok place ∧ t.SpellsAt place d := by
  obtain ⟨path, source, hasks, -, hread, hparse⟩ :=
    Expander.exists_asksFor_of_dispatch hregistry h
  obtain ⟨place, hfollow, -⟩ := exists_follow_of_readSource hread
  exact ⟨path, place, hasks, hfollow, path, source, hfollow, hread, hparse⟩

/-- Calls from the same file include the same files. -/
theorem CallsAlike.exists_dispatch (ht : t.IsWellFormed) (hlimit : t.pathLimit = none)
    (hregistry : e.registry = .standard t) (h : t.CallsAlike c c')
    (hresult : (e.dispatch c).result = .ok d) :
    ∃ d', (e.dispatch c').result = .ok d' ∧
      List.Forall₂ (Node.Matches (fun _ _ => True) t.CallsAlike) d.nodes d'.nodes := by
  obtain ⟨⟨hfunction, harguments, hspan⟩, place, hfile, hfollow, hfollow'⟩ := h
  obtain ⟨_, -, hfailed, -⟩ | ⟨argument, -, hincluded, hincluded'⟩ :=
    Expander.dispatch_standard_congr hregistry hregistry rfl hfunction harguments hspan
  · rw [hresult] at hfailed
    cases hfailed
  -- From beside the same file, the same argument leads to the same place.
  have hpaths := follow_join_congr ht hlimit hfollow hfollow' hfile argument
  rw [hresult] at hincluded
  obtain ⟨source, hread, hparse⟩ := includedDocument_eq_ok_iff.mp hincluded.symm
  have hread' := (readSource_congr (find_congr hpaths)).trans hread
  have hparse' := Document.parse_withOrigin hparse (c'.origin.parent.join argument)
  obtain ⟨next, hnext, -⟩ := exists_follow_of_readSource hread
  refine ⟨_, hincluded'.trans (includedDocument_eq_ok_iff.mpr ⟨source, hread', hparse'⟩), ?_⟩
  exact SpellsAt.forall₂_matches ⟨_, source, hnext, hread, hparse⟩
    ⟨_, source, hpaths.trans hnext, hread', hparse'⟩

/-- Expansions from the same file go the same way, whatever the paths to the file. -/
theorem simulation_of_place (ht : t.IsWellFormed) (hlimit : t.pathLimit = none)
    (hregistry : e.registry = .standard t) :
    Expander.Simulation e e (fun _ _ => True) t.CallsAlike (fun _ _ => True) where
  produced hcall hresult := hcall.exists_dispatch ht hlimit hregistry hresult
  failed := by
    intro c c' failure hcall hresult
    cases hresult' : (e.dispatch c').result with
    | error failure' => exact ⟨failure', rfl, trivial⟩
    | ok d =>
      obtain ⟨_, hproduced, -⟩ := hcall.symm.exists_dispatch ht hlimit hregistry hresult'
      rw [hresult] at hproduced
      cases hproduced

/-- The same file needs the same room, whatever the path to it. -/
theorem justExhausts_of_spellsAt (ht : t.IsWellFormed) (hlimit : t.pathLimit = none)
    (hregistry : e.registry = .standard t) (h : t.SpellsAt place d) (h' : t.SpellsAt place d')
    (hexhausts : e.JustExhausts room d.nodes) : e.JustExhausts room d'.nodes := by
  have hsimulation := simulation_of_place ht hlimit hregistry
  refine ⟨hsimulation.exhausts hexhausts.1 (h.forall₂_matches h'), ?_⟩
  intro hmore
  exact hexhausts.2 (hsimulation.exhausts hmore (h'.forall₂_matches h))

/-- As many different files are included one within the other as there is room that is just not
enough. -/
theorem exists_places_of_justExhausts (ht : t.IsWellFormed) (hlimit : t.pathLimit = none)
    (hregistry : e.registry = .standard t) (h : e.JustExhausts room nodes) :
    ∃ places : List Place, places.length = room ∧ places.Nodup ∧
      ∀ place ∈ places, ∃ needed d, needed < room ∧ t.SpellsAt place d ∧
        e.JustExhausts needed d.nodes := by
  induction room generalizing nodes with
  | zero => exact ⟨[], rfl, .nil, by simp⟩
  | succ room ih =>
    obtain ⟨c, d, -, hresult, hproduced⟩ := h.exists_produced
    obtain ⟨_, place, -, -, hspells⟩ := exists_spellsAt_of_dispatch hregistry hresult
    obtain ⟨places, hlength, hnodup, hplaces⟩ := ih hproduced
    refine ⟨place :: places, by simp [hlength], List.nodup_cons.mpr ⟨?_, hnodup⟩, ?_⟩
    · -- A file that is included further in needs less room, so it is another one.
      intro hmem
      obtain ⟨needed, d', hneeded, hspells', hexhausts⟩ := hplaces place hmem
      have hsame := justExhausts_of_spellsAt ht hlimit hregistry hspells hspells' hproduced
      exact absurd (hsame.unique hexhausts) hneeded.ne'
    · intro other hother
      rcases List.mem_cons.mp hother with rfl | hother
      · exact ⟨room, d, Nat.lt_succ_self room, hspells, hproduced⟩
      · obtain ⟨needed, d', hneeded, hinside⟩ := hplaces other hother
        exact ⟨needed, d', by omega, hinside⟩

/-- An expansion that ends nests no deeper than there are files. -/
theorem le_fileCount_of_justExhausts (ht : t.IsWellFormed) (hlimit : t.pathLimit = none)
    (hregistry : e.registry = .standard t) (h : e.JustExhausts room nodes) :
    room ≤ t.fileCount := by
  obtain ⟨places, rfl, hnodup, hplaces⟩ := exists_places_of_justExhausts ht hlimit hregistry h
  apply length_le_fileCount hnodup
  intro place hplace
  obtain ⟨_, _, -, hspells, -⟩ := hplaces place hplace
  exact hspells.holdsFile

/-- What runs out of more room than there are files runs out of any room. -/
theorem exhausts_of_fileCount_lt (ht : t.IsWellFormed) (hlimit : t.pathLimit = none)
    (hregistry : e.registry = .standard t) (h : e.Exhausts (t.fileCount + 1) nodes) (more : Nat) :
    e.Exhausts more nodes := by
  by_contra hends
  obtain ⟨greatest, hle, hjust⟩ := Expander.JustExhausts.exists_of_exhausts h hends
  have hbound := le_fileCount_of_justExhausts ht hlimit hregistry hjust
  omega

/-- Calls that are nested in a call go through files that are included one within the other. -/
theorem exists_places_of_nests (hregistry : e.registry = .standard t)
    (h : e.Nests nodes (chain ++ [innermost])) :
    ∃ places : List Place, places.length = chain.length ∧
      (∀ place ∈ places, t.HoldsFile place ∧ t.LeadsTo nodes place) ∧
      places.Pairwise (Relation.TransGen t.Includes) := by
  induction chain generalizing nodes with
  | nil => exact ⟨[], rfl, by simp, .nil⟩
  | cons c chain ih =>
    rw [List.cons_append, Expander.nests_cons] at h
    obtain ⟨hmem, hinner⟩ := h
    -- The call has produced something: the next one stands there.
    have hproduced : ∃ d, (e.dispatch c).result = .ok d ∧ e.producedNodes c = d.nodes := by
      have hnext : ∃ next, .call next ∈ e.producedNodes c := by
        cases chain with
        | nil => exact ⟨_, hinner.1⟩
        | cons next _ => exact ⟨next, hinner.1⟩
      obtain ⟨next, hnext⟩ := hnext
      obtain ⟨d, hresult, -⟩ := Expander.mem_producedNodes_iff.mp hnext
      exact ⟨d, hresult, Expander.producedNodes_of_dispatch (Run.eq_mk_of_result hresult)⟩
    obtain ⟨d, hresult, hnodes⟩ := hproduced
    obtain ⟨path, place, hasks, hfollow, hspells⟩ := exists_spellsAt_of_dispatch hregistry hresult
    have hplace : t.IncludedIn nodes place := ⟨c, path, hmem, hasks, hfollow⟩
    obtain ⟨places, hlength, hplaces, hpairs⟩ := ih hinner
    refine ⟨place :: places, by simp [hlength], ?_, List.pairwise_cons.mpr ⟨?_, hpairs⟩⟩
    · intro other hother
      rcases List.mem_cons.mp hother with rfl | hother
      · exact ⟨hspells.holdsFile, other, hplace, .refl⟩
      · obtain ⟨hfile, first, hfirst, hrest⟩ := hplaces other hother
        rw [hnodes] at hfirst
        exact ⟨hfile, place, hplace, .head ⟨d, hspells, hfirst⟩ hrest⟩
    · intro other hother
      obtain ⟨-, first, hfirst, hrest⟩ := hplaces other hother
      rw [hnodes] at hfirst
      exact .head' ⟨d, hspells, hfirst⟩ hrest

/-- Without a cycle, no more room runs out than there are files. -/
theorem le_fileCount_of_isAcyclicFrom (hregistry : e.registry = .standard t)
    (hacyclic : t.IsAcyclicFrom nodes) (h : e.Exhausts room nodes) : room ≤ t.fileCount := by
  -- One place for each call that is left when the room runs out, and no place twice.
  obtain ⟨_, around, _, hstops⟩ := h
  obtain ⟨places, hlength, hplaces, hpairs⟩ := exists_places_of_nests hregistry hstops.nests
  rw [← hstops.length_around, ← hlength]
  apply length_le_fileCount
  · -- A place that is come to twice includes itself in the end.
    rw [List.Nodup, List.pairwise_iff_forall_sublist]
    intro first second hsublist heq
    subst heq
    have hmem : first ∈ places := hsublist.subset List.mem_cons_self
    have hcycle := List.pairwise_iff_forall_sublist.mp hpairs hsublist
    exact hacyclic first (hplaces first hmem).2 hcycle
  · intro place hplace
    exact (hplaces place hplace).1

/-- An expansion runs out of room, or it succeeds, or a call fails to include. -/
theorem exhausts_or_isOfInclusion (hregistry : e.registry = .standard t)
    (exhausted : Failure CompilationError) (room : Nat) (nodes : List Node) :
    e.Exhausts room nodes ∨
      (∃ passages, (expandNodes (e.expandCall exhausted room) nodes).result = .ok passages) ∨
      ∃ (failure : Failure CompilationError) (calls : List Call), failure.IsOfInclusion ∧
        (expandNodes (e.expandCall exhausted room) nodes).result =
          .error (failure.map (calls.foldr CompilationError.escapeFrom)) := by
  obtain hexhausts | ⟨_, passages, hcompletes⟩ | ⟨_, around, c, failure, hstops⟩ :=
    e.exhausts_or room nodes
  · exact .inl hexhausts
  · exact .inr (.inl ⟨passages, by rw [hcompletes.expandNodes_eq]⟩)
  · have hfailure := Expander.isOfInclusion_of_dispatch hregistry hstops.dispatch_eq
    refine .inr (.inr ⟨failure, around ++ [c], hfailure, ?_⟩)
    rw [hstops.expandNodes_eq]
    rfl

/-- A limit that counts is exceeded exactly where so much room runs out. -/
theorem exceedsLimit_iff_exhausts (hregistry : e.registry = .standard t) (hle : limit ≤ capacity) :
    (e.expand (some limit) capacity d).ExceedsLimit limit ↔ e.Exhausts limit.toNat d.nodes := by
  refine ⟨?_, fun h => h.exceedsLimit hle⟩
  rintro ⟨trace, hresult⟩
  rw [Expander.expand_of_le_capacity hle] at hresult
  obtain hexhausts | ⟨passages, hok⟩ | ⟨failure, calls, hfailure, hfailed⟩ :=
    exhausts_or_isOfInclusion hregistry (.reported (.ofFault (.depthExceeded limit))) limit.toNat
      d.nodes
  · exact hexhausts
  · cases hresult.symm.trans hok
  · exact absurd (Except.error.inj (hfailed.symm.trans hresult))
      (hfailure.map_escapeFrom_ne_depthExceeded calls limit trace)

/-- An expansion without a limit counts as endless exactly where the capacity runs out. -/
theorem endless_iff_exhausts (hregistry : e.registry = .standard t) :
    (e.expand none capacity d).result = .error (.aborted .endless) ↔
      e.Exhausts capacity d.nodes := by
  refine ⟨?_, fun h => h.endless⟩
  intro hresult
  rw [Expander.expand_none] at hresult
  obtain hexhausts | ⟨passages, hok⟩ | ⟨failure, calls, hfailure, hfailed⟩ :=
    exhausts_or_isOfInclusion hregistry (.aborted .endless) capacity d.nodes
  · exact hexhausts
  · cases hresult.symm.trans hok
  · exact absurd (Except.error.inj (hfailed.symm.trans hresult)) (hfailure.map_ne_endless _)

/-- **Endless expansion is decided by one limit.** With the standard registry over a tree of files,
take the limit that is one more than there are files, and any capacity that it fits in. If the limit
is not exceeded, the expansion without a limit is the same. If it is, any greater limit is exceeded
as well, and without a limit the expansion is endless, whatever the capacity. An expansion without a
limit is not endless where no file includes itself in the end. -/
theorem expand_of_fileCount (ht : t.IsWellFormed) (hlimit : t.pathLimit = none)
    (hregistry : e.registry = .standard t) (hbound : limit = t.fileCount + 1)
    (hcapacity : limit ≤ capacity) (d : Document) :
    (¬ (e.expand (some limit) capacity d).ExceedsLimit limit →
      ∀ more : Nat, limit ≤ more → e.expand none more d = e.expand (some limit) capacity d) ∧
    ((e.expand (some limit) capacity d).ExceedsLimit limit →
      (∀ greater : Int, limit ≤ greater → ∀ more : Nat, greater ≤ more →
        (e.expand (some greater) more d).ExceedsLimit greater) ∧
      ∀ more, (e.expand none more d).result = .error (.aborted .endless)) ∧
    (t.IsAcyclicFrom d.nodes → ∀ more : Nat, limit ≤ more →
      (e.expand none more d).result ≠ .error (.aborted .endless)) := by
  have hroom : limit.toNat = t.fileCount + 1 := by omega
  refine ⟨?_, ?_, ?_⟩
  · intro hkept more hmore
    rw [exceedsLimit_iff_exhausts hregistry hcapacity] at hkept
    rw [Expander.expand_none, Expander.expand_of_le_capacity hcapacity]
    exact Expander.expandNodes_eq_of_not_exhausted hkept (by omega)
  · intro hexceeded
    rw [exceedsLimit_iff_exhausts hregistry hcapacity, hroom] at hexceeded
    have hall := exhausts_of_fileCount_lt ht hlimit hregistry hexceeded
    refine ⟨?_, fun more => (hall more).endless⟩
    intro greater _ more hmore
    exact (hall greater.toNat).exceedsLimit hmore
  · intro hacyclic more hmore hendless
    rw [endless_iff_exhausts hregistry] at hendless
    have hle := le_fileCount_of_isAcyclicFrom hregistry hacyclic hendless
    omega

/-- One file, which includes itself by a way through the directory beside it. -/
def loopingFiles : FileTree where
  workingDirectory := []
  clock := 0
  pathLimit := none
  entries := [
    ([], .directory 0),
    (["sub"], .directory 0),
    (["a.md"], .file (Utf8.encode "\x7b\x7binclude(#sub/../a.md#)\x7d\x7d") 0)]

/-- The expander over this file. -/
def loopingExpander : Expander where
  registry := .standard loopingFiles
  strict := true

/-- The call in this file, when the file is reached by a path. -/
def loopingCall (origin : String) : Call where
  function := "include"
  arguments := [.path (Path.parse "sub/../a.md")]
  origin := Path.parse origin
  span := some ⟨⟨1, 1, 0⟩, ⟨1, 27, 26⟩⟩

/-- The path to the file becomes longer each time. All the same, two calls within one another show
that the expansion is endless. -/
theorem expand_of_fileCount_loopingFiles :
    loopingFiles.IsWellFormed ∧ loopingFiles.fileCount = 1 ∧
      (loopingExpander.expand (some 2) 2 ⟨[.call (loopingCall "input.md")]⟩).result =
        .error (.reported (.simple (.depthExceeded 2)
          ⟨some ⟨Path.parse "sub/../sub/../a.md", (loopingCall "").span, ""⟩,
            [loopingCall "sub/../a.md", loopingCall "input.md"]⟩)) ∧
      ∀ more, (loopingExpander.expand none more ⟨[.call (loopingCall "input.md")]⟩).result =
        .error (.aborted .endless) := by
  have hexceeded :
      (loopingExpander.expand (some 2) 2 ⟨[.call (loopingCall "input.md")]⟩).result =
        .error (.reported (.simple (.depthExceeded 2)
          ⟨some ⟨Path.parse "sub/../sub/../a.md", (loopingCall "").span, ""⟩,
            [loopingCall "sub/../a.md", loopingCall "input.md"]⟩)) := by decide +kernel
  have hfiles : loopingFiles.IsWellFormed := by decide +kernel
  have hcount : loopingFiles.fileCount = 1 := by decide
  obtain ⟨-, hendless, -⟩ := expand_of_fileCount hfiles rfl
    (rfl : loopingExpander.registry = .standard loopingFiles)
    (by rw [hcount]; rfl : (2 : Int) = loopingFiles.fileCount + 1) (le_refl 2)
    ⟨[.call (loopingCall "input.md")]⟩
  exact ⟨hfiles, hcount, hexceeded, (hendless ⟨_, hexceeded⟩).2⟩

end Transclude.FileTree
