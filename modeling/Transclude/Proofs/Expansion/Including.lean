import Transclude.Proofs.Expansion.Inclusion
import Transclude.Proofs.FileTree.Reading

/-!
# How `include` answers

Whoever asks the provider of `include` for a document is told that it knows no other function, or
that it wants exactly one path, or that the file there cannot be read; or that the text of the file
has a misspelled call, which is shown in that file; or else is given the document that the file
spells. In a tree whose texts hold no numeral beyond measure nothing else comes of it, whatever the
path is and whatever stands in its way, save one thing: a path that holds a null character. It
cannot be read, and yet no error says so; it breaks off the run.

## Main definitions

* `FileTree.IsLegible` — every text of a tree spells a document or has a misspelled call
* `FileTree.IncludeAnswer` — how the provider of `include` is to answer
* `FileTree.AsksBeyondNul` — a path is asked for that holds a null character

## Main results

* `FileTree.isLegible_of_entries` — whether a tree is legible is told by the files in it
* `FileTree.includeAnswer_iff` — the provider answers as it is to, save beyond a null character
* `FileTree.not_includeAnswer_nulPath` — the fault of the run in that case
-/

namespace Transclude

/-- Whether reading a text breaks off the run is told by the text alone. -/
theorem Document.parse_aborted_congr {source : String} {origin : Path} {abort : Abort}
    (h : Document.parse source origin = .error (.aborted abort)) (origin' : Path) :
    Document.parse source origin' = .error (.aborted abort) := by
  obtain ⟨before, body, fault, hmisspells, hfailure⟩ := parse_eq_error_iff.mp h
  refine parse_eq_error_iff.mpr ⟨before, body, fault, hmisspells, ?_⟩
  cases fault with
  | reported fault => cases hfailure
  | aborted abort => exact hfailure

namespace FileTree

/-- Every text that can be read in the tree spells a document or has a misspelled call. -/
def IsLegible (files : FileTree) : Prop :=
  ∀ path source, files.ReadsAs path source →
    (∃ d, Document.parse source path = .ok d) ∨
      ∃ error, Document.parse source path = .error (.reported error)

/-- How the provider of `include` over a tree is to answer who asks it, from a directory, for a
function with arguments. -/
inductive IncludeAnswer (files : FileTree) (directory : Path) :
    String → List Value → Except (Failure CompilationError) Document → Prop
  | unknown {function arguments} (hfunction : function ≠ "include") :
      files.IncludeAnswer directory function arguments
        (.error (.reported (.ofFault (.functionNotFound function))))
  | unsuited {arguments} (harguments : ∀ argument, arguments ≠ [.path argument]) :
      files.IncludeAnswer directory "include" arguments
        (.error (.reported (.ofFault (.invalidArguments "include expects a single path argument"))))
  /-- The file cannot be read, for some reason. -/
  | unreadable {argument} (hread : ∀ source, ¬ files.ReadsAs (directory.join argument) source)
      (why : String) :
      files.IncludeAnswer directory "include" [.path argument]
        (.error (.reported (.ofFault
          (.external s!"cannot read {(directory.join argument).text}: {why}"))))
  /-- The first misspelled call of the text is the cause, shown in the file. -/
  | misspelled {argument source before body fault}
      (hread : files.ReadsAs (directory.join argument) source)
      (hmisspells : (Splitting.leftmost source.toList).Misspells before body (.reported fault)) :
      files.IncludeAnswer directory "include" [.path argument]
        (.error (.reported (.ofCause (.simple (.spelling fault)
          ⟨some ⟨directory.join argument, some (Span.behind before (braced body)), source⟩, []⟩))))
  | included {argument source d} (hread : files.ReadsAs (directory.join argument) source)
      (hparse : Document.parse source (directory.join argument) = .ok d)
      (horigin : ∀ node ∈ d.nodes, node.origin = directory.join argument) :
      files.IncludeAnswer directory "include" [.path argument] (.ok d)

/-- The file at a path is asked for that holds a null character. -/
def AsksBeyondNul (directory : Path) (function : String) (arguments : List Value) (path : Path) :
    Prop :=
  function = "include" ∧ ∃ argument, arguments = [.path argument] ∧
    path = directory.join argument ∧ hasNul path = true

variable {files : FileTree} {path directory : Path} {function : String} {arguments : List Value}
variable {abort : Abort}

theorem AsksBeyondNul.eq {path' : Path} (h : AsksBeyondNul directory function arguments path)
    (h' : AsksBeyondNul directory function arguments path') : path = path' := by
  obtain ⟨-, argument, rfl, rfl, -⟩ := h
  obtain ⟨-, argument', hargument, rfl, -⟩ := h'
  cases hargument
  rfl

/-- A tree is legible if no file in it holds a text that breaks off the run. -/
theorem isLegible_of_entries (h : ∀ place content time source,
    (place, .file content time) ∈ files.entries → decodeSource content = .ok source →
      ∃ origin, ∀ abort, Document.parse source origin ≠ .error (.aborted abort)) :
    files.IsLegible := by
  intro path source hreads
  obtain ⟨place, content, time, hmem, hdecode⟩ := hreads.exists_mem_entries
  obtain ⟨origin, hnot⟩ := h place content time source hmem hdecode
  rcases hparse : Document.parse source path with (error | abort) | d
  · exact .inr ⟨error, rfl⟩
  · exact absurd (Document.parse_aborted_congr hparse origin) (hnot abort)
  · exact .inl ⟨d, rfl⟩

/-- Whoever needs a file that cannot be read is broken off only for its path. -/
theorem eq_of_readSource_failure {fault : SourceFault} {tell : String → Fault}
    (hread : files.readSource path = .error fault) (h : fault.failure path tell = .aborted abort) :
    hasNul path = true ∧ abort = .inaccessible path .nulInPath := by
  unfold SourceFault.failure at h
  split at h
  · exact ⟨readSource_eq_nul_iff.mp hread, (Failure.aborted.inj h).symm⟩
  · cases h
  · cases h

/-- What is included breaks off the run for its path, or for a number in it. -/
theorem eq_of_includedDocument_aborted
    (h : files.includedDocument path = .error (.aborted abort)) :
    (hasNul path = true ∧ abort = .inaccessible path .nulInPath) ∨
      ∃ text digits, files.readSource path = .ok text ∧
        Document.parse text path = .error (.aborted (.oversizedNumeral digits)) ∧
        abort = .oversizedNumeral digits := by
  unfold includedDocument at h
  cases hread : files.readSource path with
  | error fault =>
    simp only [hread, Except.error.injEq] at h
    exact .inl (eq_of_readSource_failure hread h)
  | ok text =>
    rcases hparse : Document.parse text path with (cause | other) | d
    · simp [hread, hparse, Except.mapError] at h
    · obtain ⟨digits, rfl⟩ := Document.abort_of_parse hparse
      simp only [hread, hparse, Except.mapError, Except.error.injEq] at h
      cases h
      exact .inr ⟨text, digits, rfl, hparse, rfl⟩
    · simp [hread, hparse, Except.mapError] at h

/-- What comes of a path that holds a null character. -/
theorem includedDocument_of_hasNul (h : hasNul path = true) :
    files.includedDocument path = .error (.aborted (.inaccessible path .nulInPath)) := by
  rw [includedDocument, readSource_eq_nul_iff.mpr h]
  rfl

/-- A file that cannot be read is told with its path, unless nobody can be asked for the path. -/
theorem exists_includedDocument_of_unreadable (hnul : hasNul path = false)
    (hread : ∀ source, ¬ files.ReadsAs path source) :
    ∃ why : String, files.includedDocument path =
      .error (.reported (.ofFault (.external s!"cannot read {path.text}: {why}"))) := by
  rw [includedDocument]
  cases hsource : files.readSource path with
  | ok source => exact absurd (readSource_eq_ok_iff.mp hsource) (hread source)
  | error fault =>
    -- The faults apart from the null character are all told alike.
    match fault with
    | .access .nulInPath => simp [readSource_eq_nul_iff.mp hsource] at hnul
    | .access .notFound | .access .notDirectory | .access .isDirectory | .access .nameTooLong
    | .encoding _ => exact ⟨_, rfl⟩

/-- What is included is the document that the file spells, or an error caused by its first
misspelled call. -/
theorem includeAnswer_of_readsAs {argument : Path} {source : String} (hlegible : files.IsLegible)
    (hread : files.ReadsAs (directory.join argument) source) :
    files.IncludeAnswer directory "include" [.path argument]
      (files.includedDocument (directory.join argument)) := by
  simp only [includedDocument, readSource_eq_ok_iff.mpr hread]
  obtain ⟨d, hparse⟩ | ⟨error, hparse⟩ := hlegible _ _ hread
  · rw [hparse]
    exact .included hread hparse (Document.origin_of_parse hparse)
  · rw [hparse]
    obtain ⟨before, body, fault, hmisspells, hfailure⟩ := Document.parse_eq_error_iff.mp hparse
    cases fault with
    | aborted abort => cases hfailure
    | reported fault =>
      -- The error of the file becomes the cause as it stands, located and not yet escaped.
      cases hfailure
      exact .misspelled hread hmisspells

/-- Whoever does not ask beyond a null character is answered as is to be. -/
theorem includeAnswer_of_not_asksBeyondNul (hlegible : files.IsLegible)
    (hnot : ∀ path, ¬ AsksBeyondNul directory function arguments path) :
    files.IncludeAnswer directory function arguments
      (files.carryOutInclude function arguments directory).result := by
  by_cases hfunction : function = "include"
  · by_cases harguments : ∃ argument, arguments = [.path argument]
    · obtain ⟨argument, rfl⟩ := harguments
      rw [carryOutInclude_path hfunction]
      subst hfunction
      by_cases hread : ∃ source, files.ReadsAs (directory.join argument) source
      · obtain ⟨source, hread⟩ := hread
        exact includeAnswer_of_readsAs hlegible hread
      · have hnul : hasNul (directory.join argument) = false :=
          Bool.eq_false_iff.mpr fun h => hnot _ ⟨rfl, argument, rfl, rfl, h⟩
        rw [not_exists] at hread
        obtain ⟨why, hresult⟩ := exists_includedDocument_of_unreadable hnul hread
        exact hresult ▸ .unreadable hread why
    · rw [result_carryOutInclude_of_not_path hfunction harguments]
      subst hfunction
      exact .unsuited (not_exists.mp harguments)
  · unfold carryOutInclude
    rw [if_pos (show function ≠ includeDescriptor.name from hfunction)]
    exact .unknown hfunction

/-- Whoever asks beyond a null character breaks off the run. -/
theorem result_carryOutInclude_of_asksBeyondNul
    (h : AsksBeyondNul directory function arguments path) :
    (files.carryOutInclude function arguments directory).result =
      .error (.aborted (.inaccessible path .nulInPath)) := by
  obtain ⟨hfunction, argument, rfl, rfl, hnul⟩ := h
  rw [carryOutInclude_path hfunction, includedDocument_of_hasNul hnul]

/-- No answer of the provider is that the run breaks off. -/
theorem not_includeAnswer_aborted :
    ¬ files.IncludeAnswer directory function arguments (.error (.aborted abort)) := by
  intro h
  cases h

/-- **The provider of `include` fails with its errors alone, save beyond a null character.** Over a
legible tree it answers as it is to exactly if no path is asked for that holds a null character; and
the run breaks off exactly if one is. -/
theorem includeAnswer_iff (hlegible : files.IsLegible)
    {result : Except (Failure CompilationError) Document}
    (hresult : ((Provider.ofFiles files).invoke function arguments directory).result = result) :
    (files.IncludeAnswer directory function arguments result ↔
        ∀ path, ¬ AsksBeyondNul directory function arguments path) ∧
      ∀ abort, result = .error (.aborted abort) ↔
        ∃ path, AsksBeyondNul directory function arguments path ∧
          abort = .inaccessible path .nulInPath := by
  obtain rfl : (files.carryOutInclude function arguments directory).result = result := hresult
  -- Whether such a path is asked for decides both at once.
  by_cases hasks : ∃ path, AsksBeyondNul directory function arguments path
  · obtain ⟨path, hasks⟩ := hasks
    rw [result_carryOutInclude_of_asksBeyondNul hasks]
    refine ⟨⟨fun h => absurd h not_includeAnswer_aborted, fun h => absurd hasks (h path)⟩,
      fun abort => ⟨?_, ?_⟩⟩
    · rintro ⟨⟩
      exact ⟨path, hasks, rfl⟩
    · rintro ⟨path', hasks', rfl⟩
      rw [hasks.eq hasks']
  · rw [not_exists] at hasks
    have hanswer := includeAnswer_of_not_asksBeyondNul hlegible hasks
    refine ⟨iff_of_true hanswer hasks, fun abort => iff_of_false ?_ ?_⟩
    · intro h
      exact not_includeAnswer_aborted (h ▸ hanswer)
    · rintro ⟨path, hpath, -⟩
      exact hasks path hpath

/-- A file with a misspelled call on its second line, and one that is not text. -/
def flawedFiles : FileTree where
  workingDirectory := []
  clock := 0
  pathLimit := none
  entries := [
    ([], .directory 0),
    (["a.md"], .file (Utf8.encode "a\n\x7b\x7bf-()\x7d\x7d") 0),
    (["b.md"], .file [0xFF] 0)]

/-- What is wrong with the first of the files. -/
def flaw : CompilationError :=
  .simple (.spelling (.invalidSymbol "-"))
    ⟨some ⟨⟨.relative, ["a.md"]⟩, some ⟨⟨2, 1, 2⟩, ⟨2, 9, 10⟩⟩, "a\n\x7b\x7bf-()\x7d\x7d"⟩, []⟩

theorem isLegible_flawedFiles : flawedFiles.IsLegible := by
  refine isLegible_of_entries fun place content time source hmem hdecode => ?_
  simp only [flawedFiles, List.mem_cons, Prod.mk.injEq, reduceCtorEq, and_false, Entry.file.injEq,
    List.not_mem_nil, or_false, false_or] at hmem
  obtain ⟨-, rfl, -⟩ | ⟨-, rfl, -⟩ := hmem
  · rw [decodeSource_encode] at hdecode
    cases hdecode
    have hparse : Document.parse "a\n\x7b\x7bf-()\x7d\x7d" ⟨.relative, ["a.md"]⟩ =
        .error (.reported flaw) := by decide +kernel
    refine ⟨⟨.relative, ["a.md"]⟩, fun abort h => ?_⟩
    cases hparse.symm.trans h
  · cases hdecode

/-- A call that is misspelled in a file is shown there to whoever includes the file. -/
theorem includeAnswer_iff_flawedFiles :
    flawedFiles.IsLegible ∧
      ((Provider.ofFiles flawedFiles).invoke "include" [.path ⟨.relative, ["a.md"]⟩]
        ⟨.relative, []⟩).result = .error (.reported (.ofCause flaw)) ∧
      flawedFiles.IncludeAnswer ⟨.relative, []⟩ "include" [.path ⟨.relative, ["a.md"]⟩]
        (.error (.reported (.ofCause flaw))) := by
  have hresult : ((Provider.ofFiles flawedFiles).invoke "include" [.path ⟨.relative, ["a.md"]⟩]
      ⟨.relative, []⟩).result = .error (.reported (.ofCause flaw)) := by decide +kernel
  refine ⟨isLegible_flawedFiles, hresult, ?_⟩
  refine (includeAnswer_iff isLegible_flawedFiles hresult).1.mpr ?_
  rintro path ⟨-, argument, hargument, rfl, hnul⟩
  cases hargument
  exact absurd hnul (by decide +kernel)

/-- A path that holds a null character cannot be read, and is not answered for as such. -/
theorem not_includeAnswer_nulPath :
    flawedFiles.IsLegible ∧
      (∀ source, ¬ flawedFiles.ReadsAs ⟨.relative, ["a\x00b"]⟩ source) ∧
      ¬ flawedFiles.IncludeAnswer ⟨.relative, []⟩ "include" [.path ⟨.relative, ["a\x00b"]⟩]
        ((Provider.ofFiles flawedFiles).invoke "include" [.path ⟨.relative, ["a\x00b"]⟩]
          ⟨.relative, []⟩).result := by
  have hnul : hasNul ⟨.relative, ["a\x00b"]⟩ = true := by decide +kernel
  refine ⟨isLegible_flawedFiles, ?_, ?_⟩
  · intro source hread
    have hok := readSource_eq_ok_iff.mpr hread
    rw [readSource_eq_nul_iff.mpr hnul] at hok
    cases hok
  · intro h
    have hasks : AsksBeyondNul ⟨.relative, []⟩ "include" [.path ⟨.relative, ["a\x00b"]⟩]
        ⟨.relative, ["a\x00b"]⟩ := ⟨rfl, _, rfl, rfl, hnul⟩
    change flawedFiles.IncludeAnswer _ _ _ (flawedFiles.carryOutInclude _ _ _).result at h
    rw [result_carryOutInclude_of_asksBeyondNul hasks] at h
    exact not_includeAnswer_aborted h

end FileTree

end Transclude
