import Mathlib.Data.List.Induction
import Mathlib.Data.List.Infix
import Transclude.FileTree.Source

/-!
# Following paths

Names are followed one after the other, so a path that goes on from a directory leads where its
further names lead from there. In a tree in which everything stands in a directory, a path to a file
ends with the name of the file, and the path without that name leads to the directory that holds
it. Hence what a path is seen from is told by the place of a file alone, however the file was
reached.

## Main definitions

* `FileTree.IsDirectory`, `FileTree.HoldsFile` — what stands at a place
* `FileTree.IsWellFormed` — everything stands in a directory
* `FileTree.NameLeads` — what becomes of a name in a directory
* `FileTree.StartsWith` — how names that lead somewhere start

## Main results

* `FileTree.followFrom_append` — names are followed one after the other
* `FileTree.follow_parent_join` — where a path leads that is seen from beside a file
* `FileTree.follow_join_congr` — two ways to a file make no difference to where paths lead from
  there
* `FileTree.readSource_congr` — paths that lead to the same place read the same
-/

namespace Transclude.FileTree

/-- A directory stands at the place. -/
def IsDirectory (t : FileTree) (place : Place) : Prop :=
  ∃ time, t.entryAt? place = some (.directory time)

/-- A file stands at the place. -/
def HoldsFile (t : FileTree) (place : Place) : Prop :=
  ∃ content time, t.entryAt? place = some (.file content time)

/-- The working directory is a directory, and everything stands in a directory. -/
structure IsWellFormed (t : FileTree) : Prop where
  working : t.IsDirectory t.workingDirectory
  parent {place entry} (h : t.entryAt? place = some entry) : t.IsDirectory place.dropLast

variable {t : FileTree} {place middle last : Place} {front back names rest : List String}
variable {name : String} {path path' argument : Path}

theorem IsDirectory.not_holdsFile (h : t.IsDirectory place) : ¬ t.HoldsFile place := by
  obtain ⟨_, hdirectory⟩ := h
  rintro ⟨_, _, hfile⟩
  cases hdirectory.symm.trans hfile

instance (t : FileTree) (place : Place) : Decidable (t.IsDirectory place) :=
  match h : t.entryAt? place with
  | some (.directory time) => .isTrue ⟨time, h⟩
  | some (.file ..) => .isFalse (by rintro ⟨_, hentry⟩; cases h.symm.trans hentry)
  | none => .isFalse (by rintro ⟨_, hentry⟩; cases h.symm.trans hentry)

theorem isWellFormed_iff :
    t.IsWellFormed ↔
      t.IsDirectory t.workingDirectory ∧ ∀ held ∈ t.entries, t.IsDirectory held.1.dropLast := by
  constructor
  · rintro ⟨hworking, hparent⟩
    refine ⟨hworking, ?_⟩
    rintro ⟨place, entry⟩ hmem
    -- The place may be listed more than once; some entry is the one that stands there.
    cases hentry : t.entryAt? place with
    | none => exact absurd (List.lookup_eq_none_iff.mp hentry _ hmem) (by simp)
    | some _ => exact hparent hentry
  · rintro ⟨hworking, hparent⟩
    refine ⟨hworking, ?_⟩
    intro place entry hentry
    obtain ⟨before, behind, hentries, -⟩ := List.lookup_eq_some_iff.mp hentry
    exact hparent (place, entry) (by simp [hentries])

instance (t : FileTree) : Decidable t.IsWellFormed :=
  decidable_of_iff' _ isWellFormed_iff

namespace IsWellFormed

theorem dropLast (ht : t.IsWellFormed) (h : t.IsDirectory place) :
    t.IsDirectory place.dropLast := by
  obtain ⟨_, hentry⟩ := h
  exact ht.parent hentry

/-- Where there is a directory, there is one at the top. -/
theorem top (ht : t.IsWellFormed) : t.IsDirectory [] := by
  have habove : ∀ place : Place, t.IsDirectory place → t.IsDirectory [] := by
    intro place
    induction place using List.reverseRecOn with
    | nil => exact id
    | append_singleton place name ih =>
      intro h
      apply ih
      simpa using ht.dropLast h
  exact habove _ ht.working

theorem startOf (ht : t.IsWellFormed) (path : Path) : t.IsDirectory (t.startOf path) := by
  unfold FileTree.startOf
  split
  · exact ht.working
  · exact ht.top

end IsWellFormed

/-- What becomes of a name that is followed from a directory. -/
inductive NameLeads (t : FileTree) (place : Place) (name : String) : Prop
  | up (hup : name = "..")
  | tooLong (hup : name ≠ "..") (hlong : maxNameBytes < name.utf8ByteSize)
  | missing (hup : name ≠ "..") (hshort : name.utf8ByteSize ≤ maxNameBytes)
      (hentry : t.entryAt? (place ++ [name]) = none)
  | directory (hup : name ≠ "..") (hshort : name.utf8ByteSize ≤ maxNameBytes)
      (hentry : t.IsDirectory (place ++ [name]))
  | file (hup : name ≠ "..") (hshort : name.utf8ByteSize ≤ maxNameBytes)
      (hentry : t.HoldsFile (place ++ [name]))

theorem nameLeads (t : FileTree) (place : Place) (name : String) : t.NameLeads place name := by
  by_cases hup : name = ".."
  · exact .up hup
  by_cases hlong : maxNameBytes < name.utf8ByteSize
  · exact .tooLong hup hlong
  have hshort := Nat.le_of_not_lt hlong
  rcases hentry : t.entryAt? (place ++ [name]) with _ | (time | ⟨content, time⟩)
  · exact .missing hup hshort hentry
  · exact .directory hup hshort ⟨time, hentry⟩
  · exact .file hup hshort ⟨content, time, hentry⟩

@[simp] theorem followFrom_nil : t.followFrom place [] = .ok place := rfl

theorem followFrom_up : t.followFrom place (".." :: rest) = t.followFrom place.dropLast rest := by
  simp [followFrom]

theorem followFrom_tooLong (hup : name ≠ "..") (hlong : maxNameBytes < name.utf8ByteSize) :
    t.followFrom place (name :: rest) = .error .nameTooLong := by
  simp [followFrom, hup, hlong]

theorem followFrom_missing (hup : name ≠ "..") (hshort : name.utf8ByteSize ≤ maxNameBytes)
    (hentry : t.entryAt? (place ++ [name]) = none) :
    t.followFrom place (name :: rest) = .error .notFound := by
  simp [followFrom, hup, Nat.not_lt.mpr hshort, hentry]

theorem followFrom_directory (hup : name ≠ "..") (hshort : name.utf8ByteSize ≤ maxNameBytes)
    (hentry : t.IsDirectory (place ++ [name])) :
    t.followFrom place (name :: rest) = t.followFrom (place ++ [name]) rest := by
  obtain ⟨_, hentry⟩ := hentry
  simp [followFrom, hup, Nat.not_lt.mpr hshort, hentry]

theorem followFrom_file (hup : name ≠ "..") (hshort : name.utf8ByteSize ≤ maxNameBytes)
    (hentry : t.HoldsFile (place ++ [name])) :
    t.followFrom place (name :: rest) =
      if rest = [] then .ok (place ++ [name]) else .error .notDirectory := by
  obtain ⟨_, _, hentry⟩ := hentry
  simp [followFrom, hup, Nat.not_lt.mpr hshort, hentry]

/-- How names that lead somewhere start. -/
inductive StartsWith (t : FileTree) (place : Place) (name : String) (rest : List String)
    (last : Place) : Prop
  | up (hup : name = "..") (hrest : t.followFrom place.dropLast rest = .ok last)
  | directory (hup : name ≠ "..") (hshort : name.utf8ByteSize ≤ maxNameBytes)
      (hentry : t.IsDirectory (place ++ [name]))
      (hrest : t.followFrom (place ++ [name]) rest = .ok last)
  /-- A file is the end of the way. -/
  | file (hup : name ≠ "..") (hshort : name.utf8ByteSize ≤ maxNameBytes)
      (hentry : t.HoldsFile (place ++ [name])) (hrest : rest = []) (hlast : last = place ++ [name])

theorem startsWith_of_followFrom (h : t.followFrom place (name :: rest) = .ok last) :
    t.StartsWith place name rest last := by
  cases t.nameLeads place name with
  | up hup =>
    subst hup
    rw [followFrom_up] at h
    exact .up rfl h
  | tooLong hup hlong =>
    rw [followFrom_tooLong hup hlong] at h
    cases h
  | missing hup hshort hentry =>
    rw [followFrom_missing hup hshort hentry] at h
    cases h
  | directory hup hshort hentry =>
    rw [followFrom_directory hup hshort hentry] at h
    exact .directory hup hshort hentry h
  | file hup hshort hentry =>
    rw [followFrom_file hup hshort hentry] at h
    split at h
    · rename_i hrest
      cases h
      exact .file hup hshort hentry hrest rfl
    · cases h

/-- Names are followed one after the other, from the directory that the first ones lead to. -/
theorem followFrom_append (h : t.followFrom place front = .ok middle)
    (hmiddle : t.IsDirectory middle) :
    t.followFrom place (front ++ back) = t.followFrom middle back := by
  induction front generalizing place with
  | nil =>
    cases h
    rfl
  | cons name front ih =>
    rw [List.cons_append]
    cases startsWith_of_followFrom h with
    | up hup hrest =>
      subst hup
      rw [followFrom_up]
      exact ih hrest
    | directory hup hshort hentry hrest =>
      rw [followFrom_directory hup hshort hentry]
      exact ih hrest
    | file _ _ hentry _ hlast =>
      -- A file would be the end of the way, but the way leads to a directory.
      subst hlast
      exact absurd hentry hmiddle.not_holdsFile

/-- Names that lead from a directory to a file end with the name of the file, and those in front of
it lead to the directory of the file. -/
theorem exists_of_followFrom_file (ht : t.IsWellFormed) (hplace : t.IsDirectory place)
    (h : t.followFrom place names = .ok last) (hlast : t.HoldsFile last) :
    t.followFrom place names.dropLast = .ok last.dropLast ∧ t.IsDirectory last.dropLast := by
  induction names generalizing place with
  | nil =>
    cases h
    exact absurd hlast hplace.not_holdsFile
  | cons name rest ih =>
    -- A directory is not the file that is led to, so more names follow.
    have hinside (next : Place) (hnext : t.IsDirectory next)
        (h : t.followFrom next rest = .ok last) :
        (name :: rest).dropLast = name :: rest.dropLast := by
      cases rest with
      | nil =>
        cases h
        exact absurd hlast hnext.not_holdsFile
      | cons _ _ => rfl
    cases startsWith_of_followFrom h with
    | up hup hrest =>
      subst hup
      have habove := ht.dropLast hplace
      rw [hinside _ habove hrest, followFrom_up]
      exact ih habove hrest
    | directory hup hshort hentry hrest =>
      rw [hinside _ hentry hrest, followFrom_directory hup hshort hentry]
      exact ih hentry hrest
    | file _ _ _ hrest hend =>
      subst hrest hend
      simp [hplace]

theorem hasNul_parent (h : hasNul path = false) : hasNul path.parent = false := by
  unfold hasNul at h ⊢
  rw [List.any_eq_false] at h ⊢
  intro name hname
  exact h name (List.mem_of_mem_dropLast hname)

theorem hasNul_join (h : hasNul path = false) (hargument : argument.root = .relative) :
    hasNul (path.join argument) = hasNul argument := by
  unfold hasNul at h ⊢
  rw [Path.join_of_relative hargument, List.any_append, h, Bool.false_or]

theorem hasNul_eq_false_of_follow (h : t.follow path = .ok place) : hasNul path = false := by
  unfold follow checkPath at h
  cases hnul : hasNul path with
  | false => rfl
  | true => simp [hnul] at h

theorem follow_of_not_hasNul (hlimit : t.pathLimit = none) (h : hasNul path = false) :
    t.follow path = t.followFrom (t.startOf path) path.names := by
  simp [follow, checkPath, h, isOverlong, hlimit]

theorem follow_of_hasNul (h : hasNul path = true) : t.follow path = .error .nulInPath := by
  simp [follow, checkPath, h]

theorem followFrom_of_follow (h : t.follow path = .ok place) :
    t.followFrom (t.startOf path) path.names = .ok place := by
  unfold follow at h
  split at h
  · cases h
  · exact h

/-- A path that is seen from beside a file is followed from the directory of the file. -/
theorem follow_parent_join (ht : t.IsWellFormed) (hlimit : t.pathLimit = none)
    (h : t.follow path = .ok place) (hfile : t.HoldsFile place)
    (hargument : argument.root = .relative) :
    t.follow (path.parent.join argument) =
      if hasNul argument then .error .nulInPath
      else t.followFrom place.dropLast argument.names := by
  have hnul := hasNul_eq_false_of_follow h
  obtain ⟨hparent, hdirectory⟩ :=
    exists_of_followFrom_file ht (ht.startOf path) (followFrom_of_follow h) hfile
  have hsame := hasNul_join (hasNul_parent hnul) hargument
  cases hargumentNul : hasNul argument with
  | true => rw [follow_of_hasNul (hsame.trans hargumentNul), if_pos rfl]
  | false =>
    have hstart : t.startOf (path.parent.join argument) = t.startOf path := by
      rw [Path.join_of_relative hargument]
      rfl
    rw [follow_of_not_hasNul hlimit (hsame.trans hargumentNul), hstart,
      Path.join_of_relative hargument]
    exact followFrom_append hparent hdirectory

/-- From beside a file, paths lead to the same places however the file was reached. -/
theorem follow_join_congr (ht : t.IsWellFormed) (hlimit : t.pathLimit = none)
    (h : t.follow path = .ok place) (h' : t.follow path' = .ok place) (hfile : t.HoldsFile place)
    (argument : Path) :
    t.follow (path'.parent.join argument) = t.follow (path.parent.join argument) := by
  by_cases hargument : argument.root = .relative
  · rw [follow_parent_join ht hlimit h hfile hargument,
      follow_parent_join ht hlimit h' hfile hargument]
  · rw [Path.join_of_rooted hargument, Path.join_of_rooted hargument]

theorem find_congr (h : t.follow path' = t.follow path) : t.find path' = t.find path := by
  rw [find, h, find]

theorem readSource_congr {t' : FileTree} (h : t'.find path' = t.find path) :
    t'.readSource path' = t.readSource path := by
  rw [readSource, read, h, readSource, read]

/-- What can be read stands in a file. -/
theorem exists_follow_of_readSource {source : String} (h : t.readSource path = .ok source) :
    ∃ place, t.follow path = .ok place ∧ t.HoldsFile place := by
  unfold readSource read find at h
  cases hfollow : t.follow path with
  | error fault => simp [hfollow] at h
  | ok place =>
    rcases hentry : t.entryAt? place with _ | (_ | _)
    · simp [hfollow, hentry] at h
    · simp [hfollow, hentry] at h
    · exact ⟨place, rfl, _, _, hentry⟩

end Transclude.FileTree
