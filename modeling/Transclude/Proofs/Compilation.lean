import Transclude.Compilation
import Transclude.Proofs.Expansion.Rewriting
import Transclude.Proofs.Splitting.Concatenation
import Transclude.Proofs.Splitting.Outline

/-!
# Compilation part by part

What a source compiles to is put together from what its parts come to: plain text stays as it is,
and every call comes to a text of its own. That text depends on how the call is spelled and on the
directory of the file that it stands in, and not on its place or on what stands around it. Hence
texts that are put side by side compile side by side.

## Main definitions

* `Registry.Inserts` — the text that a call comes to
* `Splitting.Compiles` — the text that the parts of a splitting come to

## Main results

* `Splitting.compiles_iff_exists_nodes` — the text of the parts is the text of the nodes that are
  read from them
* `Splitting.compiles_append_iff` — splittings side by side compile side by side
* `Expander.exists_compile_eq_ok_iff` — a source compiles to what its leftmost splitting comes to
-/

namespace Transclude

open Splitting

theorem joinPassages_cons (t : Passage) (passages : List Passage) :
    joinPassages (t :: passages) = t.content ++ joinPassages passages := by
  simp [joinPassages]

theorem joinPassages_append (first second : List Passage) :
    joinPassages (first ++ second) = joinPassages first ++ joinPassages second := by
  induction first with
  | nil => simp [joinPassages]
  | cons t first ih =>
    rw [List.cons_append, joinPassages_cons, joinPassages_cons, ih, String.append_assoc]

/-- A call with the body comes to the text in the end, when it stands in a file of the
directory. -/
def Registry.Inserts (r : Registry) (directory : Path) (body : List Char) (inserted : String) :
    Prop :=
  ∃ c produced calls passages,
    Invocation.ofBody body = .ok ⟨c.function, c.arguments⟩ ∧ c.origin.parent = directory ∧
    r.Produces c produced ∧ r.Expands produced.nodes calls passages ∧
    joinPassages passages = inserted

/-- The parts of a splitting come to a text, when they stand in a file of the directory. -/
inductive Splitting.Compiles (r : Registry) (directory : Path) : Splitting → String → Prop
  | plain {text} : Compiles r directory (.plain text) (String.ofList text)
  | unclosed {text rest} :
      Compiles r directory (.unclosed text rest) (String.ofList text ++ String.ofList rest)
  | call {text body rest inserted behind} (hcall : r.Inserts directory body inserted)
      (hrest : Compiles r directory rest behind) :
      Compiles r directory (.call text body rest) (String.ofList text ++ inserted ++ behind)

variable {r : Registry} {directory origin : Path} {source out : String}

namespace Splitting

variable {s s' : Splitting} {text body front : List Char} {rest : Splitting} {p : Position}

theorem compiles_plain_iff : (plain text).Compiles r directory out ↔ out = String.ofList text := by
  constructor
  · rintro ⟨⟩
    rfl
  · rintro rfl
    exact .plain

theorem compiles_unclosed_iff {rest : List Char} :
    (unclosed text rest).Compiles r directory out ↔
      out = String.ofList text ++ String.ofList rest := by
  constructor
  · rintro ⟨⟩
    rfl
  · rintro rfl
    exact .unclosed

theorem compiles_call_iff : (call text body rest).Compiles r directory out ↔
    ∃ inserted behind, r.Inserts directory body inserted ∧ rest.Compiles r directory behind ∧
      out = String.ofList text ++ inserted ++ behind := by
  constructor
  · rintro ⟨⟩
    exact ⟨_, _, ‹_›, ‹_›, rfl⟩
  · rintro ⟨inserted, behind, hcall, hrest, rfl⟩
    exact .call hcall hrest

/-- The text of the parts is the text of the nodes that are read from them. -/
theorem compiles_iff_exists_nodes (source : String) (p : Position) :
    s.Compiles r origin.parent out ↔
      ∃ nodes calls passages, Piece.Reads origin source (s.pieces p) nodes ∧
        r.Expands nodes calls passages ∧ joinPassages passages = out := by
  induction s generalizing p out with
  | plain text =>
    constructor
    · rintro ⟨⟩
      exact ⟨_, 0, _, .cons rfl .nil, .text .nil, by simp [joinPassages]⟩
    · rintro ⟨_, _, _, _ | ⟨⟨⟩, _ | _⟩, ⟨⟩ | ⟨⟨⟩⟩, rfl⟩
      simpa [joinPassages] using Compiles.plain
  | unclosed text rest =>
    constructor
    · rintro ⟨⟩
      exact ⟨_, 0, _, .cons rfl (.cons rfl .nil), .text (.text .nil), by simp [joinPassages]⟩
    · rintro ⟨_, _, _, _ | ⟨⟨⟩, _ | ⟨⟨⟩, _ | _⟩⟩, ⟨⟩ | ⟨⟨⟩ | ⟨⟨⟩⟩⟩, rfl⟩
      simpa [joinPassages] using Compiles.unclosed
  | call text body rest ih =>
    rw [compiles_call_iff, pieces_call]
    constructor
    · rintro ⟨_, behind, ⟨c, produced, calls, passages, hbody, hdirectory, hproduces, hinside, rfl⟩,
        hbehind, rfl⟩
      obtain ⟨nodes, _, _, hreads, hexpands, rfl⟩ := (ih _).mp hbehind
      -- The call that is read stands in another place, but in a file of the same directory.
      have hproduces' : r.Produces ⟨c.function, c.arguments, origin,
          some ⟨p.after text, (p.after text).after (braced body)⟩⟩ produced :=
        hproduces.congr rfl rfl rfl hdirectory.symm
      refine ⟨_, _, _, .cons rfl (.cons (Piece.read_call_eq_ok_iff.mpr ⟨_, hbody, rfl⟩) hreads),
        .text (.call hproduces' hinside hexpands), ?_⟩
      rw [joinPassages_cons, joinPassages_append, String.append_assoc]
    · rintro ⟨_, _, _, _ | ⟨⟨⟩, _ | ⟨hcall, hreads⟩⟩, ⟨⟩ | ⟨hexpands⟩, rfl⟩
      obtain ⟨⟨function, arguments⟩, hbody, rfl⟩ := Piece.read_call_eq_ok_iff.mp hcall
      cases hexpands with
      | call hproduces hinside hothers =>
        refine ⟨_, _, ⟨_, _, _, _, hbody, rfl, hproduces, hinside, rfl⟩,
          (ih _).mpr ⟨_, _, _, hreads, hothers, rfl⟩, ?_⟩
        rw [joinPassages_cons, joinPassages_append, String.append_assoc]

/-- Plain text in front stays in front. -/
theorem compiles_prepend_iff : (s.prepend front).Compiles r directory out ↔
    ∃ behind, s.Compiles r directory behind ∧ out = String.ofList front ++ behind := by
  cases s with
  | plain text => simp [prepend, compiles_plain_iff]
  | unclosed text rest => simp [prepend, compiles_unclosed_iff, String.append_assoc]
  | call text body rest =>
    rw [prepend, compiles_call_iff]
    constructor
    · rintro ⟨inserted, behind, hcall, hrest, rfl⟩
      exact ⟨_, .call hcall hrest, by simp [String.append_assoc]⟩
    · rintro ⟨_, hcompiles, rfl⟩
      obtain ⟨inserted, behind, hcall, hrest, rfl⟩ := compiles_call_iff.mp hcompiles
      exact ⟨inserted, behind, hcall, hrest, by simp [String.append_assoc]⟩

/-- Splittings side by side compile side by side. -/
theorem compiles_append_iff (hclosed : s.isUnclosed = false) :
    (s.append s').Compiles r directory out ↔
      ∃ first second, s.Compiles r directory first ∧ s'.Compiles r directory second ∧
        out = first ++ second := by
  induction s generalizing out with
  | plain text => simp [append, compiles_prepend_iff, compiles_plain_iff]
  | unclosed text rest => contradiction
  | call text body rest ih =>
    rw [append, compiles_call_iff]
    constructor
    · rintro ⟨inserted, _, hcall, hrest, rfl⟩
      obtain ⟨first, second, hfirst, hsecond, rfl⟩ := (ih hclosed).mp hrest
      exact ⟨_, second, .call hcall hfirst, hsecond, by simp [String.append_assoc]⟩
    · rintro ⟨_, second, hcompiles, hsecond, rfl⟩
      obtain ⟨inserted, first, hcall, hfirst, rfl⟩ := compiles_call_iff.mp hcompiles
      exact ⟨inserted, _, hcall, (ih hclosed).mpr ⟨first, second, hfirst, hsecond, rfl⟩,
        by simp [String.append_assoc]⟩

/-- Two texts side by side compile side by side, if the first one leaves no call open and no pair of
opening braces is made where they meet. -/
theorem compiles_leftmost_append_iff {front behind : List Char}
    (hclosed : (leftmost front).isUnclosed = false) (h : Apart front behind) :
    (leftmost (front ++ behind)).Compiles r directory out ↔
      ∃ first second, (leftmost front).Compiles r directory first ∧
        (leftmost behind).Compiles r directory second ∧ out = first ++ second := by
  rw [leftmost_append hclosed h, compiles_append_iff hclosed]

/-- A call in front of a text comes to a text of its own. -/
theorem compiles_leftmost_braced_iff {behind : List Char} (hbody : ¬ HasPair '}' (body ++ ['}'])) :
    (leftmost (braced body ++ behind)).Compiles r directory out ↔
      ∃ inserted second, r.Inserts directory body inserted ∧
        (leftmost behind).Compiles r directory second ∧ out = inserted ++ second := by
  have hsource : braced body ++ behind = '{' :: '{' :: (body ++ '}' :: '}' :: behind) := by
    simp [braced]
  rw [hsource, leftmost_call_nil hbody, compiles_call_iff]
  simp

end Splitting

namespace Expander

/-- A source that cannot be read fails to compile as it fails to be read. -/
theorem compile_of_parse_error {e : Expander} {limit : Option Int} {capacity : Nat}
    {failure : Failure CompilationError} (h : Document.parse source origin = .error failure) :
    (e.compile limit capacity source origin).result = .error failure := by
  simp [compile, h, Run.ofResult]

/-- A source compiles to the text of the passages that its document is expanded to. -/
theorem compile_of_parse_ok {e : Expander} {limit : Option Int} {capacity : Nat} {d : Document}
    (h : Document.parse source origin = .ok d) :
    (e.compile limit capacity source origin).result =
      (e.expand limit capacity d).result.map joinPassages := by
  generalize hrun : e.expand limit capacity d = run
  obtain ⟨events, failure | passages⟩ := run <;> simp [compile, h, Run.ofResult, hrun, Except.map]

theorem compile_eq_ok_iff {e : Expander} {limit : Option Int} {capacity : Nat} :
    (e.compile limit capacity source origin).result = .ok out ↔
      ∃ d passages, Document.parse source origin = .ok d ∧
        (e.expand limit capacity d).result = .ok passages ∧ joinPassages passages = out := by
  cases hparse : Document.parse source origin with
  | error failure => simp [compile_of_parse_error hparse]
  | ok d =>
    rw [compile_of_parse_ok hparse]
    cases hexpand : (e.expand limit capacity d).result <;> simp [Except.map, hexpand]

/-- What a source compiles to does not depend on the room, if there is enough. -/
theorem compile_unique {capacity capacity' : Nat} {out' : String}
    (h : (r.expander.compile none capacity source origin).result = .ok out)
    (h' : (r.expander.compile none capacity' source origin).result = .ok out') : out = out' := by
  obtain ⟨d, passages, hparse, hexpand, rfl⟩ := compile_eq_ok_iff.mp h
  obtain ⟨d', passages', hparse', hexpand', rfl⟩ := compile_eq_ok_iff.mp h'
  obtain rfl : d = d' := Except.ok.inj (hparse.symm.trans hparse')
  obtain ⟨_, hexpands⟩ := exists_expand_eq_ok_iff_expands.mp ⟨capacity, hexpand⟩
  obtain ⟨_, hexpands'⟩ := exists_expand_eq_ok_iff_expands.mp ⟨capacity', hexpand'⟩
  rw [(hexpands.unique hexpands').2]

/-- A source compiles to what its leftmost splitting comes to. -/
theorem exists_compile_eq_ok_iff :
    (∃ capacity, (r.expander.compile none capacity source origin).result = .ok out) ↔
      (leftmost source.toList).Compiles r origin.parent out := by
  rw [compiles_iff_exists_nodes source .origin]
  constructor
  · rintro ⟨capacity, h⟩
    obtain ⟨d, passages, hparse, hexpand, rfl⟩ := compile_eq_ok_iff.mp h
    obtain ⟨calls, hexpands⟩ := exists_expand_eq_ok_iff_expands.mp ⟨capacity, hexpand⟩
    exact ⟨d.nodes, calls, passages, Document.parse_eq_ok_iff.mp hparse, hexpands, rfl⟩
  · rintro ⟨nodes, calls, passages, hreads, hexpands, rfl⟩
    obtain ⟨capacity, hexpand⟩ := exists_expand_eq_ok_iff_expands.mpr ⟨calls, hexpands⟩
    have hparse : Document.parse source origin = .ok ⟨nodes⟩ := Document.parse_eq_ok_iff.mpr hreads
    exact ⟨capacity, compile_eq_ok_iff.mpr ⟨⟨nodes⟩, passages, hparse, hexpand, rfl⟩⟩

end Expander

end Transclude
