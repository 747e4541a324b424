import Transclude.Proofs.FileTree.Following

/-!
# Moving a tree

What a tree holds below its working directory may be placed under a directory there. A path that is
relative and does not leave the tree then leads, seen from that directory, to what it led to before:
names are followed one after the other, and every step that is taken in the one tree is taken in the
other as well.

## Main definitions

* `Path.under` — a path as it is seen from above a directory
* `FileTree.StaysBelow` — following names does not leave what is below a place
* `FileTree.StandsUnder` — a tree holds under a directory what another one holds
* `FileTree.under` — the tree that is moved under a directory

## Main results

* `FileTree.StandsUnder.followFrom` — the same steps are taken in both trees
* `FileTree.StandsUnder.find`, `FileTree.StandsUnder.readSource` — the same is found in both trees
* `FileTree.standsUnder_under` — any tree can be moved under any directory
-/

namespace Transclude

namespace Path

variable {directory : List String} {path argument : Path}

/-- The path as it is seen from above the directory, which the names lead down to. -/
def under (directory : List String) (path : Path) : Path :=
  (⟨.relative, directory⟩ : Path).join path

theorem under_of_relative (h : path.root = .relative) :
    path.under directory = ⟨.relative, directory ++ path.names⟩ :=
  join_of_relative h

/-- A path that is seen from beside a file is moved with the file. -/
theorem parent_join_under (h : path.root = .relative) (hnames : path.names ≠ [])
    (hargument : argument.root = .relative) :
    (path.under directory).parent.join argument = (path.parent.join argument).under directory := by
  have hparent : (path.parent.join argument).root = .relative := by
    rw [join_of_relative hargument]
    exact h
  rw [under_of_relative h, under_of_relative hparent, join_of_relative hargument,
    join_of_relative hargument]
  simp [parent, List.dropLast_append_of_ne_nil hnames]

end Path

namespace FileTree

/-- A name that leads down: it can be followed, and does not go back up. -/
def IsPlainName (name : String) : Prop :=
  name ≠ ".." ∧ name.utf8ByteSize ≤ maxNameBytes ∧ '\x00' ∉ name.toList

instance (name : String) : Decidable (IsPlainName name) :=
  inferInstanceAs (Decidable (_ ∧ _ ∧ _))

/-- Following the names from the place never goes up from `top`. -/
def StaysBelow (t : FileTree) (top : Place) : Place → List String → Prop
  | _, [] => True
  | place, name :: rest =>
    if name = ".." then place ≠ top ∧ t.StaysBelow top place.dropLast rest
    else t.IsDirectory (place ++ [name]) → t.StaysBelow top (place ++ [name]) rest

/-- Below its working directory, the tree `t'` holds under the directory what the tree `t` holds
there. What else it holds does not matter. -/
structure StandsUnder (directory : List String) (t t' : FileTree) : Prop where
  working : t'.workingDirectory = t.workingDirectory
  plain : ∀ name ∈ directory, IsPlainName name
  way : ∀ front, front <+: directory → t'.IsDirectory (t.workingDirectory ++ front)
  entries : ∀ names, t'.entryAt? (t.workingDirectory ++ directory ++ names) =
    t.entryAt? (t.workingDirectory ++ names)

variable {t t' : FileTree} {directory names back : List String} {top place : Place} {path : Path}

theorem staysBelow_up {rest : List String} :
    t.StaysBelow top place (".." :: rest) ↔ place ≠ top ∧ t.StaysBelow top place.dropLast rest := by
  simp [StaysBelow]

theorem staysBelow_name {name : String} {rest : List String} (hup : name ≠ "..") :
    t.StaysBelow top place (name :: rest) ↔
      (t.IsDirectory (place ++ [name]) → t.StaysBelow top (place ++ [name]) rest) := by
  simp [StaysBelow, hup]

instance decidableStaysBelow (t : FileTree) (top : Place) :
    (place : Place) → (names : List String) → Decidable (t.StaysBelow top place names)
  | _, [] => .isTrue trivial
  | place, name :: rest =>
    have := decidableStaysBelow t top place.dropLast rest
    have := decidableStaysBelow t top (place ++ [name]) rest
    inferInstanceAs (Decidable (if name = ".." then _ else _))

namespace StandsUnder

theorem isDirectory_iff (h : StandsUnder directory t t') :
    t'.IsDirectory (t.workingDirectory ++ directory ++ names) ↔
      t.IsDirectory (t.workingDirectory ++ names) := by
  simp only [IsDirectory, h.entries]

theorem holdsFile_iff (h : StandsUnder directory t t') :
    t'.HoldsFile (t.workingDirectory ++ directory ++ names) ↔
      t.HoldsFile (t.workingDirectory ++ names) := by
  simp only [HoldsFile, h.entries]

/-- The names of the directory lead down to it. -/
theorem followFrom_way (h : StandsUnder directory t t') (names : List String) :
    t'.followFrom t.workingDirectory (directory ++ names) =
      t'.followFrom (t.workingDirectory ++ directory) names := by
  -- The names are taken one by one: those in front have been followed already.
  have hfrom (front back : List String) (hdirectory : directory = front ++ back) :
      t'.followFrom (t.workingDirectory ++ front) (back ++ names) =
        t'.followFrom (t.workingDirectory ++ directory) names := by
    induction back generalizing front with
    | nil => simp [hdirectory]
    | cons name back ih =>
      obtain ⟨hup, hshort, -⟩ := h.plain name (by simp [hdirectory])
      have hnext := h.way (front ++ [name]) ⟨back, by simp [hdirectory]⟩
      rw [← List.append_assoc] at hnext
      rw [List.cons_append, followFrom_directory hup hshort hnext, List.append_assoc]
      exact ih (front ++ [name]) (by simp [hdirectory])
  have hall := hfrom [] directory rfl
  rwa [List.append_nil] at hall

/-- The same steps are taken in both trees, as long as they do not leave what is moved. -/
theorem followFrom (h : StandsUnder directory t t')
    (hstays : t.StaysBelow t.workingDirectory (t.workingDirectory ++ back) names) :
    (∃ last, t.followFrom (t.workingDirectory ++ back) names = .ok (t.workingDirectory ++ last) ∧
      t'.followFrom (t.workingDirectory ++ directory ++ back) names =
        .ok (t.workingDirectory ++ directory ++ last)) ∨
    ∃ fault, t.followFrom (t.workingDirectory ++ back) names = .error fault ∧
      t'.followFrom (t.workingDirectory ++ directory ++ back) names = .error fault := by
  induction names generalizing back with
  | nil => exact .inl ⟨back, rfl, rfl⟩
  | cons name rest ih =>
    have hnext : t.workingDirectory ++ directory ++ back ++ [name] =
        t.workingDirectory ++ directory ++ (back ++ [name]) := List.append_assoc ..
    cases t.nameLeads (t.workingDirectory ++ back) name with
    | up hup =>
      subst hup
      -- What is left behind is a name below the working directory, in both trees.
      obtain ⟨hbelow, hstays⟩ := staysBelow_up.mp hstays
      have hback : back ≠ [] := by simpa using hbelow
      rw [List.dropLast_append_of_ne_nil hback] at hstays
      rw [followFrom_up, followFrom_up, List.dropLast_append_of_ne_nil hback,
        List.dropLast_append_of_ne_nil hback]
      exact ih hstays
    | tooLong hup hlong =>
      exact .inr ⟨_, followFrom_tooLong hup hlong, followFrom_tooLong hup hlong⟩
    | missing hup hshort hentry =>
      rw [List.append_assoc, ← h.entries, ← hnext] at hentry
      refine .inr ⟨_, followFrom_missing hup hshort ?_, followFrom_missing hup hshort hentry⟩
      rw [List.append_assoc, ← h.entries, ← hnext]
      exact hentry
    | directory hup hshort hentry =>
      have hstays := (staysBelow_name hup).mp hstays hentry
      rw [List.append_assoc] at hentry hstays
      rw [followFrom_directory hup hshort (by rwa [List.append_assoc]), List.append_assoc,
        followFrom_directory hup hshort (by rw [hnext, h.isDirectory_iff]; exact hentry), hnext]
      exact ih hstays
    | file hup hshort hentry =>
      have hentry' : t'.HoldsFile (t.workingDirectory ++ directory ++ back ++ [name]) := by
        rw [hnext, h.holdsFile_iff, ← List.append_assoc]
        exact hentry
      rw [followFrom_file hup hshort hentry, followFrom_file hup hshort hentry', hnext,
        List.append_assoc]
      split
      · exact .inl ⟨back ++ [name], rfl, rfl⟩
      · exact .inr ⟨_, rfl, rfl⟩

/-- A path leads, seen from above the directory, to what it leads to in the other tree. -/
theorem find (h : StandsUnder directory t t') (hlimit : t.pathLimit = none)
    (hlimit' : t'.pathLimit = none) (hpath : path.root = .relative)
    (hstays : t.StaysBelow t.workingDirectory t.workingDirectory path.names) :
    t'.find (path.under directory) = t.find path := by
  have hplain : hasNul ⟨.relative, directory⟩ = false := by
    rw [hasNul, List.any_eq_false]
    intro name hname
    simpa using (h.plain name hname).2.2
  have hnul : hasNul (path.under directory) = hasNul path := hasNul_join hplain hpath
  cases hpathNul : hasNul path with
  | true =>
    rw [FileTree.find, FileTree.find, follow_of_hasNul hpathNul,
      follow_of_hasNul (hnul.trans hpathNul)]
  | false =>
    have hstart : t.startOf path = t.workingDirectory := if_pos hpath
    have hstart' : t'.startOf (path.under directory) = t.workingDirectory := by
      rw [Path.under_of_relative hpath]
      exact h.working
    have hfollow := follow_of_not_hasNul hlimit hpathNul
    have hfollow' := follow_of_not_hasNul hlimit' (hnul.trans hpathNul)
    rw [hstart] at hfollow
    rw [hstart', Path.under_of_relative hpath, h.followFrom_way] at hfollow'
    have hsteps := @followFrom t t' directory path.names [] h (by rwa [List.append_nil])
    rw [List.append_nil, List.append_nil, ← hfollow, ← hfollow'] at hsteps
    rw [Path.under_of_relative hpath]
    obtain ⟨last, hplace, hplace'⟩ | ⟨fault, hfault, hfault'⟩ := hsteps
    · rw [FileTree.find, FileTree.find, hplace, hplace']
      simp only [h.entries]
    · rw [FileTree.find, FileTree.find, hfault, hfault']

/-- A path reads the same in both trees. -/
theorem readSource (h : StandsUnder directory t t') (hlimit : t.pathLimit = none)
    (hlimit' : t'.pathLimit = none) (hpath : path.root = .relative)
    (hstays : t.StaysBelow t.workingDirectory t.workingDirectory path.names) :
    t'.readSource (path.under directory) = t.readSource path :=
  readSource_congr (h.find hlimit hlimit' hpath hstays)

end StandsUnder

/-- An entry below `top`, moved under a directory there. -/
def moveEntry (top : Place) (directory : List String) (held : Place × Entry) :
    Option (Place × Entry) :=
  if top <+: held.1 then some (top ++ directory ++ held.1.drop top.length, held.2) else none

/-- The tree that holds under a directory what the given one holds below its working directory, and
nothing else but the directories on the way there. -/
def under (directory : List String) (t : FileTree) : FileTree :=
  { t with
    entries := t.entries.filterMap (moveEntry t.workingDirectory directory) ++
      (prefixes (t.workingDirectory ++ directory)).map fun place => (place, .directory t.clock) }

theorem lookup_moved (entries : List (Place × Entry)) :
    (entries.filterMap (moveEntry top directory)).lookup (top ++ directory ++ names) =
      entries.lookup (top ++ names) := by
  induction entries with
  | nil => rfl
  | cons held rest ih =>
    obtain ⟨place, entry⟩ := held
    by_cases hplace : top <+: place
    · obtain ⟨tail, rfl⟩ := hplace
      have hmoved : moveEntry top directory (top ++ tail, entry) =
          some (top ++ directory ++ tail, entry) := by simp [moveEntry]
      have hkey : (top ++ directory ++ names == top ++ directory ++ tail) =
          (top ++ names == top ++ tail) := by
        rw [Bool.eq_iff_iff]
        simp
      rw [List.filterMap_cons_some hmoved, List.lookup_cons, List.lookup_cons, hkey, ih]
    · have hkey : (top ++ names == place) = false := by
        apply beq_false_of_ne
        rintro rfl
        exact hplace (List.prefix_append top names)
      have hmoved : moveEntry top directory (place, entry) = none := by simp [moveEntry, hplace]
      rw [List.filterMap_cons_none hmoved, List.lookup_cons, hkey, ih]

/-- Nothing is moved to a place that is not below the directory. -/
theorem lookup_moved_eq_none (entries : List (Place × Entry)) (h : ¬ top ++ directory <+: place) :
    (entries.filterMap (moveEntry top directory)).lookup place = none := by
  rw [List.lookup_eq_none_iff]
  intro held hheld
  obtain ⟨original, -, hmoved⟩ := List.mem_filterMap.mp hheld
  unfold moveEntry at hmoved
  split at hmoved
  · cases hmoved
    apply bne_iff_ne.mpr
    rintro rfl
    exact h (List.prefix_append ..)
  · cases hmoved

theorem mem_prefixes {place front : Place} : front ∈ prefixes place ↔ front <+: place := by
  simp only [prefixes, List.mem_map, List.mem_range]
  constructor
  · rintro ⟨n, -, rfl⟩
    exact List.take_prefix n place
  · intro h
    exact ⟨front.length, Nat.lt_succ_of_le h.length_le, (List.prefix_iff_eq_take.mp h).symm⟩

/-- A list of directories holds nothing else. -/
theorem lookup_directories (places : List Place) (time : Time) (place : Place) :
    (places.map fun place => (place, Entry.directory time)).lookup place =
      if place ∈ places then some (.directory time) else none := by
  induction places with
  | nil => rfl
  | cons first rest ih =>
    rw [List.map_cons, List.lookup_cons, ih]
    by_cases hfirst : place = first
    · simp [hfirst]
    · simp [hfirst, beq_false_of_ne hfirst]

/-- Any tree whose working directory is there can be moved under any directory of plain names. -/
theorem standsUnder_under (hworking : t.IsDirectory t.workingDirectory)
    (hplain : ∀ name ∈ directory, IsPlainName name) :
    StandsUnder directory t (t.under directory) where
  working := rfl
  plain := hplain
  way := by
    rintro front ⟨back, rfl⟩
    have hmem : t.workingDirectory ++ front ∈ prefixes (t.workingDirectory ++ (front ++ back)) :=
      mem_prefixes.mpr ⟨back, by simp⟩
    unfold IsDirectory entryAt? under
    rw [List.lookup_append]
    by_cases hback : back = []
    · -- At the end of the way stands what was the working directory.
      subst hback
      obtain ⟨time, hentry⟩ := hworking
      have hmoved : (t.entries.filterMap (moveEntry t.workingDirectory front)).lookup
          (t.workingDirectory ++ front ++ []) = t.entries.lookup (t.workingDirectory ++ []) :=
        lookup_moved t.entries
      rw [List.append_nil, List.append_nil] at hmoved
      rw [entryAt?] at hentry
      refine ⟨time, ?_⟩
      rw [List.append_nil, hmoved, hentry]
      rfl
    · refine ⟨t.clock, ?_⟩
      rw [lookup_moved_eq_none, lookup_directories, if_pos hmem]
      · rfl
      · intro h
        have hlength := h.length_le
        have hpos := List.length_pos_iff.mpr hback
        simp only [List.length_append] at hlength
        omega
  entries := by
    intro names
    unfold entryAt? under
    rw [List.lookup_append, lookup_moved]
    cases hentry : t.entries.lookup (t.workingDirectory ++ names) with
    | some entry => rfl
    | none =>
      -- The directories on the way do not reach below the one that is moved to.
      rw [lookup_directories, if_neg]
      · rfl
      · intro hmem
        have hlength := (mem_prefixes.mp hmem).length_le
        cases names with
        | nil =>
          obtain ⟨time, hworking⟩ := hworking
          rw [entryAt?] at hworking
          rw [List.append_nil, hworking] at hentry
          cases hentry
        | cons name rest =>
          simp only [List.length_append, List.length_cons] at hlength
          omega

end FileTree

end Transclude
