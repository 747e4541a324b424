import Transclude.Proofs.FileTree.Following

/-!
# Writing files

A file that is written stands afterwards where its path leads, with the bytes that were written, and
at every other place stands what stood there before. Only the directory of the file is modified with
it, if the file is new there. A directory stays a directory, so that paths still lead to where they
led.

## Main definitions

* `FileTree.DiffersAt` — two trees differ in the file at one place

## Main results

* `FileTree.writablePlace_eq_ok` — where a file can be written
* `FileTree.differsAt_writeAt` — writing changes one file only
* `FileTree.DiffersAt.follow` — the path of a file leads to where it was written
* `FileTree.exists_differsAt_of_write`, `FileTree.read_of_write` — what is written can be read
-/

namespace Transclude.FileTree

/-- The later tree differs from the other one in what stands at a place: there stands a file with
the given bytes now. The directory of the file is a directory in both. -/
structure DiffersAt (t later : FileTree) (place : Place) (content : List UInt8) : Prop where
  working : later.workingDirectory = t.workingDirectory
  pathLimit : later.pathLimit = t.pathLimit
  before : ¬ t.IsDirectory place
  after : ∃ time, later.entryAt? place = some (.file content time)
  parent : t.IsDirectory place.dropLast ∧ later.IsDirectory place.dropLast
  others {other} (hplace : other ≠ place) (hparent : other ≠ place.dropLast) :
    later.entryAt? other = t.entryAt? other

variable {t later : FileTree} {place directory other last : Place} {names : List String}
variable {content : List UInt8} {path : Path} {entry : Entry}

theorem entryAt?_touch_self (h : t.entryAt? place = some entry) :
    (t.touch place).entryAt? place = some (entry.withModified t.clock) := by
  simp [touch, h]

theorem entryAt?_touch_of_ne (h : other ≠ place) :
    (t.touch place).entryAt? other = t.entryAt? other := by
  unfold touch
  split
  · exact entryAt?_put_of_ne t _ h
  · rfl

/-- The directory in which a file is written stays one. -/
theorem isDirectory_touch (h : t.IsDirectory place) : (t.touch place).IsDirectory place := by
  obtain ⟨time, hentry⟩ := h
  exact ⟨t.clock, entryAt?_touch_self hentry⟩

/-- A file can be written in a directory that the names in front lead to, under a name that leads
down to no directory. -/
theorem writablePlace_eq_ok (h : t.writablePlace path = .ok place) :
    t.checkPath path = .ok () ∧ ∃ directory name, path.names = path.names.dropLast ++ [name] ∧
      t.followFrom (t.startOf path) path.names.dropLast = .ok directory ∧
      t.IsDirectory directory ∧ name ≠ ".." ∧ name.utf8ByteSize ≤ maxNameBytes ∧
      place = directory ++ [name] ∧ ¬ t.IsDirectory place := by
  unfold writablePlace at h
  split at h
  · cases h
  · cases h
  rename_i name hcheck hlast
  refine ⟨hcheck, ?_⟩
  split at h
  · cases h
  rename_i directory hfollow
  split at h
  · cases h
  · cases h
  rename_i time hdirectory
  split at h
  · cases h
  rename_i hup
  split at h
  · cases h
  rename_i hshort
  split at h
  · cases h
  rename_i hfree
  cases h
  obtain ⟨front, hnames⟩ := List.getLast?_eq_some_iff.mp hlast
  refine ⟨directory, name, ?_, hfollow, ⟨time, hdirectory⟩, hup, not_lt.mp hshort, rfl, ?_⟩
  · rw [hnames, List.dropLast_concat]
  · rintro ⟨_, hentry⟩
    exact hfree _ hentry

/-- Writing changes one file only. -/
theorem differsAt_writeAt (hname : place ≠ place.dropLast) (hplace : ¬ t.IsDirectory place)
    (hparent : t.IsDirectory place.dropLast) :
    t.DiffersAt (t.writeAt place content) place content := by
  have hworking (other : Place) : (t.touch other).workingDirectory = t.workingDirectory := by
    unfold touch
    split <;> rfl
  have hlimit (other : Place) : (t.touch other).pathLimit = t.pathLimit := by
    unfold touch
    split <;> rfl
  unfold writeAt
  split
  · refine ⟨rfl, rfl, hplace, ⟨t.clock, entryAt?_put_self ..⟩, ⟨hparent, ?_⟩, ?_⟩
    · obtain ⟨time, hentry⟩ := hparent
      exact ⟨time, (entryAt?_put_of_ne t _ hname.symm).trans hentry⟩
    · intro other hother _
      exact entryAt?_put_of_ne t _ hother
  · refine ⟨hworking _, hlimit _, hplace, ⟨t.clock, entryAt?_put_self ..⟩, ⟨hparent, ?_⟩, ?_⟩
    · obtain ⟨time, hentry⟩ := isDirectory_touch hparent
      exact ⟨time, (entryAt?_put_of_ne _ _ hname.symm).trans hentry⟩
    · intro other hother hdirectory
      exact (entryAt?_put_of_ne _ _ hother).trans (entryAt?_touch_of_ne hdirectory)

namespace DiffersAt

theorem isDirectory (h : t.DiffersAt later place content) (hother : t.IsDirectory other) :
    later.IsDirectory other := by
  by_cases hparent : other = place.dropLast
  · subst hparent
    exact h.parent.2
  · have hplace : other ≠ place := by
      rintro rfl
      exact h.before hother
    obtain ⟨time, hentry⟩ := hother
    exact ⟨time, (h.others hplace hparent).trans hentry⟩

/-- Names that led to a directory still lead there. -/
theorem followFrom (h : t.DiffersAt later place content)
    (hfollow : t.followFrom directory names = .ok last) (hlast : t.IsDirectory last) :
    later.followFrom directory names = .ok last := by
  induction names generalizing directory with
  | nil => exact hfollow
  | cons name rest ih =>
    cases startsWith_of_followFrom hfollow with
    | up hup hrest =>
      subst hup
      rw [followFrom_up]
      exact ih hrest
    | directory hup hshort hentry hrest =>
      rw [followFrom_directory hup hshort (h.isDirectory hentry)]
      exact ih hrest
    | file _ _ hentry _ hend =>
      -- A file is no directory that names could lead to.
      subst hend
      exact absurd hentry hlast.not_holdsFile

/-- The path of a file leads to where it was written. -/
theorem follow (h : t.DiffersAt later place content) (hplace : t.writablePlace path = .ok place) :
    later.follow path = .ok place := by
  obtain ⟨hcheck, directory, name, hnames, hfollow, hdirectory, hup, hshort, rfl, -⟩ :=
    writablePlace_eq_ok hplace
  have hcheck' : later.checkPath path = .ok () := by
    rw [← hcheck, checkPath, checkPath, isOverlong, isOverlong, h.pathLimit]
  have hstart : later.startOf path = t.startOf path := by rw [startOf, startOf, h.working]
  obtain ⟨time, hentry⟩ := h.after
  have hfile : later.HoldsFile (directory ++ [name]) := ⟨content, time, hentry⟩
  rw [FileTree.follow, hcheck']
  simp only
  rw [hstart, hnames,
    followFrom_append (h.followFrom hfollow hdirectory) (h.isDirectory hdirectory),
    followFrom_file hup hshort hfile, if_pos rfl]

end DiffersAt

/-- What is written stands where its path leads, and nothing else is changed. -/
theorem exists_differsAt_of_write (h : t.write path content = .ok later) :
    ∃ place, later.follow path = .ok place ∧ t.DiffersAt later place content := by
  unfold write at h
  cases hplace : t.writablePlace path with
  | error fault =>
    rw [hplace] at h
    cases h
  | ok place =>
    rw [hplace] at h
    obtain rfl := Except.ok.inj h
    obtain ⟨-, directory, name, -, -, hdirectory, -, -, rfl, hfree⟩ := writablePlace_eq_ok hplace
    have hdiffers : t.DiffersAt (t.writeAt (directory ++ [name]) content) (directory ++ [name])
        content := differsAt_writeAt (by simp) hfree (by simpa using hdirectory)
    exact ⟨_, hdiffers.follow hplace, hdiffers⟩

/-- What is written can be read. -/
theorem read_of_write (h : t.write path content = .ok later) : later.read path = .ok content := by
  obtain ⟨place, hfollow, hdiffers⟩ := exists_differsAt_of_write h
  obtain ⟨time, hentry⟩ := hdiffers.after
  simp [read, find, hfollow, hentry]

end Transclude.FileTree
