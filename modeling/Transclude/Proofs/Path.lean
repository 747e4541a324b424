import Mathlib.Data.List.Basic
import Transclude.Path

/-!
# Paths and the texts that spell them

A path that a text spells is made of names: pieces without slashes that are neither empty nor the
name of the place itself. Such a path is spelled by the text that it is written as.

## Main definitions

* `Path.IsNormal` — a path is made of names

## Main results

* `Path.isNormal_iff_exists_parse` — the paths made of names are those that texts spell
* `Path.parse_text` — such a path is spelled by its text
* `Path.parse_name` — a name spells the path to it
-/

namespace Transclude.Path

/-- The names of a path are names: without slashes, and neither empty nor a dot. -/
def IsNormal (p : Path) : Prop :=
  ∀ name ∈ p.names, '/' ∉ name.toList ∧ isName name.toList

instance (p : Path) : Decidable p.IsNormal :=
  inferInstanceAs (Decidable (∀ name ∈ p.names, '/' ∉ name.toList ∧ isName name.toList))

variable {p : Path} {cs piece : List Char} {names : List String}

theorem pieces_eq_splitOnPPrepend (piece cs : List Char) :
    pieces piece cs = cs.splitOnPPrepend (· == '/') piece := by
  induction cs generalizing piece with
  | nil => rfl
  | cons c cs ih => simp [pieces, List.splitOnPPrepend_cons_eq_if, ih]

theorem pieces_nil_eq_splitOn (cs : List Char) : pieces [] cs = cs.splitOn '/' :=
  pieces_eq_splitOnPPrepend [] cs

theorem pieces_slash (cs : List Char) : pieces [] ('/' :: cs) = [] :: pieces [] cs := by
  simp [pieces]

/-- A piece holds no slash, if none was in what it goes on from. -/
theorem slash_not_mem_of_mem_pieces {start : List Char} (hstart : '/' ∉ start)
    (h : piece ∈ pieces start cs) : '/' ∉ piece := by
  fun_induction pieces start cs with
  | case1 start => simp_all
  | case2 start rest ih =>
    rcases List.mem_cons.mp h with rfl | hrest
    · simpa using hstart
    · exact ih (by simp) hrest
  | case3 start c rest hc ih =>
    exact ih (by simp [hstart, Ne.symm hc]) h

theorem isNormal_parse (s : String) : (parse s).IsNormal := by
  intro name hname
  obtain ⟨piece, hpiece, rfl⟩ := List.mem_map.mp hname
  rw [List.mem_filter] at hpiece
  rw [String.toList_ofList]
  exact ⟨slash_not_mem_of_mem_pieces (by simp) hpiece.1, hpiece.2⟩

theorem isName_ne_nil (h : isName piece) : piece ≠ [] := by
  rintro rfl
  simp [isName] at h

/-- The names of a path with slashes between them. -/
def joined (names : List String) : List Char :=
  ['/'].intercalate (names.map String.toList)

theorem toList_text (h : p ≠ here) : p.text.toList = p.root.text.toList ++ joined p.names := by
  rw [text, if_neg h, String.toList_append, String.toList_intercalate]
  rfl

/-- Names with slashes between them do not begin with one. -/
theorem takeWhile_joined (h : ∀ name ∈ names, '/' ∉ name.toList ∧ isName name.toList) :
    (joined names).takeWhile (· = '/') = [] := by
  cases names with
  | nil => rfl
  | cons name rest =>
    obtain ⟨hslash, hname⟩ := h name (by simp)
    obtain ⟨c, cs, hcs⟩ := List.exists_cons_of_ne_nil (isName_ne_nil hname)
    have hc : c ≠ '/' := by
      rintro rfl
      exact hslash (by simp [hcs])
    have hjoined : ∃ behind, joined (name :: rest) = c :: behind := by
      cases rest <;> simp [joined, hcs]
    obtain ⟨behind, hbehind⟩ := hjoined
    simp [hbehind, hc]

/-- The names are the pieces that are names. -/
theorem filter_pieces_joined (h : ∀ name ∈ names, '/' ∉ name.toList ∧ isName name.toList) :
    (pieces [] (joined names)).filter isName = names.map String.toList := by
  by_cases hnames : names = []
  · -- Without names there is one piece, which is empty.
    subst hnames
    rfl
  · have hsplit : pieces [] (joined names) = names.map String.toList := by
      rw [pieces_nil_eq_splitOn, joined, List.splitOn_intercalate _ _ (by simpa using hnames)]
      simpa using fun name hname => (h name hname).1
    rw [hsplit, List.filter_eq_self]
    simpa using fun name hname => (h name hname).2

/-- A path that is made of names is spelled by its text. -/
theorem parse_text (h : p.IsNormal) : parse p.text = p := by
  by_cases hhere : p = here
  · subst hhere
    rfl
  · obtain ⟨root, names⟩ := p
    have htext := toList_text hhere
    have hfront : (joined names).takeWhile (· = '/') = [] := takeWhile_joined h
    -- The slashes of the root are empty pieces in front of the names.
    have hroot : Root.parse (root.text.toList ++ joined names) = root := by
      cases root <;> simp [Root.parse, Root.text, hfront]
    have hpieces : (pieces [] (root.text.toList ++ joined names)).filter isName
        = names.map String.toList := by
      rw [← filter_pieces_joined h]
      cases root <;> simp [Root.text, pieces_slash, isName]
    simp [parse, htext, hroot, hpieces]

theorem isName_toList_iff {name : String} : isName name.toList ↔ name ≠ "" ∧ name ≠ "." := by
  have hdot : name.toList = ['.'] ↔ name = "." := by
    rw [← String.toList_inj]
    rfl
  simp [isName, hdot]

theorem text_name (name : String) : text ⟨.relative, [name]⟩ = name := by
  rw [String.ext_iff, toList_text (by simp [here])]
  simp [Root.text, joined]

/-- A name spells the path to it. -/
theorem parse_name {name : String} (hslash : '/' ∉ name.toList) (hname : name ≠ "" ∧ name ≠ ".") :
    parse name = ⟨.relative, [name]⟩ := by
  have h : IsNormal ⟨.relative, [name]⟩ := by
    simpa [IsNormal] using ⟨hslash, isName_toList_iff.mpr hname⟩
  have hparse := parse_text h
  rwa [text_name] at hparse

/-- The paths that are made of names are those that texts spell. -/
theorem isNormal_iff_exists_parse : p.IsNormal ↔ ∃ s, parse s = p := by
  constructor
  · intro h
    exact ⟨p.text, parse_text h⟩
  · rintro ⟨s, rfl⟩
    exact isNormal_parse s

end Transclude.Path
