import Transclude.Proofs.FileTree.Following
import Transclude.Proofs.Utf8

/-!
# Which files can be read

A path reads as a text if the file there holds the encoding of a text that becomes this one when
its line endings are made line feeds. Nothing else can be read. Among the paths that cannot be read
are those that nobody can be asked for, because they hold a null character.

## Main definitions

* `FileTree.ReadsAs` — a path leads to a file of the given text

## Main results

* `FileTree.readSource_eq_ok_iff` — what is read is the text of the file
* `FileTree.readSource_eq_nul_iff` — which paths nobody can be asked for
-/

namespace Transclude

variable {bytes : List UInt8} {source written : String}

theorem decodeSource_eq_ok_iff :
    decodeSource bytes = .ok source ↔
      ∃ written, bytes = Utf8.encode written ∧
        source = String.ofList (normalizeNewlines written.toList) := by
  rw [decodeSource]
  cases hdecode : Utf8.decode bytes with
  | error fault =>
    -- An encoding could be read.
    have hnot (written : String) : bytes ≠ Utf8.encode written := by
      intro hwritten
      rw [Utf8.decode_eq_ok_iff.mpr hwritten] at hdecode
      cases hdecode
    simp [hnot, Except.map]
  | ok text =>
    obtain rfl := Utf8.decode_eq_ok_iff.mp hdecode
    constructor
    · rintro ⟨⟩
      exact ⟨text, rfl, rfl⟩
    · rintro ⟨written, hwritten, rfl⟩
      rw [Utf8.decode_eq_ok_iff.mpr hwritten] at hdecode
      cases hdecode
      rfl

/-- A text is read from its encoding, with line feeds for its line endings. -/
theorem decodeSource_encode (written : String) :
    decodeSource (Utf8.encode written) =
      .ok (String.ofList (normalizeNewlines written.toList)) :=
  decodeSource_eq_ok_iff.mpr ⟨written, rfl, rfl⟩

namespace FileTree

variable {t : FileTree} {path : Path} {place : Place} {names : List String}

/-- The path leads to a file that holds the text, but that its lines may end in other ways. -/
def ReadsAs (t : FileTree) (path : Path) (source : String) : Prop :=
  ∃ written, t.read path = .ok (Utf8.encode written) ∧
    source = String.ofList (normalizeNewlines written.toList)

theorem readSource_eq_ok_iff : t.readSource path = .ok source ↔ t.ReadsAs path source := by
  rw [readSource, ReadsAs]
  cases t.read path with
  | error fault => simp
  | ok bytes =>
    simp only [Except.ok.injEq, ← decodeSource_eq_ok_iff]
    cases decodeSource bytes <;> simp [Except.mapError]

/-- What can be read is held by an entry of the tree. -/
theorem ReadsAs.exists_mem_entries (h : t.ReadsAs path source) :
    ∃ place content time, (place, .file content time) ∈ t.entries ∧
      decodeSource content = .ok source := by
  obtain ⟨written, hread, hsource⟩ := h
  unfold read find at hread
  cases hfollow : t.follow path with
  | error fault => simp [hfollow] at hread
  | ok place =>
    rcases hentry : t.entryAt? place with _ | (_ | ⟨content, time⟩)
    · simp [hfollow, hentry] at hread
    · simp [hfollow, hentry] at hread
    · -- The entry at a place is one of the entries, perhaps in front of others there.
      simp only [hfollow, hentry, Except.ok.injEq] at hread
      obtain ⟨before, behind, hentries, -⟩ := List.lookup_eq_some_iff.mp hentry
      refine ⟨place, content, time, by simp [hentries], ?_⟩
      rw [hread, decodeSource_encode, hsource]

theorem followFrom_ne_nul : t.followFrom place names ≠ .error .nulInPath := by
  induction names generalizing place with
  | nil => simp
  | cons name rest ih =>
    unfold followFrom
    split
    · exact ih
    split
    · simp
    split
    · simp
    · exact ih
    · split <;> simp

/-- Nobody can be asked for a path exactly if it holds a null character. -/
theorem find_eq_nul_iff (t : FileTree) :
    t.find path = .error .nulInPath ↔ hasNul path = true := by
  constructor
  · intro h
    by_contra hnul
    unfold find follow checkPath at h
    rw [if_neg hnul] at h
    by_cases hlong : t.isOverlong path = true
    · simp [hlong] at h
    · cases hfollow : t.followFrom (t.startOf path) path.names with
      | error fault =>
        simp only [hlong, hfollow, Bool.false_eq_true, if_false, Except.error.injEq] at h
        exact followFrom_ne_nul (h ▸ hfollow)
      | ok place =>
        simp only [hlong, hfollow, Bool.false_eq_true, if_false] at h
        split at h <;> cases h
  · intro hnul
    rw [find, follow_of_hasNul hnul]

/-- A file is refused for its path alone exactly if the path holds a null character. -/
theorem readSource_eq_nul_iff :
    t.readSource path = .error (.access .nulInPath) ↔ hasNul path = true := by
  rw [← find_eq_nul_iff t]
  unfold readSource read
  cases t.find path with
  | error fault => simp
  | ok entry =>
    cases entry with
    | directory _ => simp
    | file content _ => cases hdecode : decodeSource content <;> simp [hdecode, Except.mapError]

end FileTree

end Transclude
