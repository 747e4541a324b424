import Transclude.Proofs.Splitting.Misspelling

/-!
# The first fault of a source

The closed calls of a source are told by what stands in front of each of them and by its body. A
source fails with an error when one of them is misspelled and none in front of it fails in any way.
The error is the fault of that call, located at its braces and at what stands between them. What
stands behind the call has no part in this: every source that goes on differently fails with the
same fault at the same place. A call that is left open is not among the closed calls.

## Main definitions

* `Splitting.closedCalls` — the closed calls, with what stands in front of them
* `Splitting.FailsFirst` — a closed call fails, and none in front of it does

## Main results

* `Splitting.failsFirst_closedCalls_iff` — the first misspelled call is the first closed call that
  fails
* `Splitting.Misspells.of_prefix` — what stands behind the first misspelled call does not matter
* `Splitting.bodies_leftmost_open` — a call that is left open adds no closed call
* `Document.parse_first_fault` — what a source fails with
-/

namespace Transclude

open Splitting

namespace Splitting

/-- The closed calls, each with its body and what stands in front of it in a source, if the text
that was cut stands behind `passed`. -/
def closedCalls (passed : List Char) : Splitting → List (List Char × List Char)
  | plain _ | unclosed _ _ => []
  | call text body rest =>
    (passed ++ text, body) :: rest.closedCalls (passed ++ text ++ braced body)

/-- A closed call with the body fails, `before` stands in front of it, and all closed calls in front
of it can be read. -/
def FailsFirst (calls : List (List Char × List Char)) (before body : List Char)
    (failure : Failure SpellingFault) : Prop :=
  (∃ earlier later, calls = earlier ++ (before, body) :: later ∧
    ∀ call ∈ earlier, ∃ invocation, Invocation.ofBody call.2 = .ok invocation) ∧
  Invocation.ofBody body = .error failure

variable {s : Splitting} {passed before body front rest : List Char}
variable {cs ds : List Char} {failure : Failure SpellingFault}
variable {call : List Char × List Char} {calls : List (List Char × List Char)}

theorem failsFirst_cons_iff : FailsFirst (call :: calls) before body failure ↔
    ((before, body) = call ∧ Invocation.ofBody body = .error failure) ∨
      (∃ invocation, Invocation.ofBody call.2 = .ok invocation) ∧
        FailsFirst calls before body failure := by
  rw [FailsFirst, exists_behind_cons_iff, or_and_right, and_assoc]
  rfl

/-- The first misspelled call is the first closed call that fails. -/
theorem failsFirst_closedCalls_iff {here : List Char} :
    FailsFirst (s.closedCalls passed) here body failure ↔
      ∃ before, here = passed ++ before ∧ s.Misspells before body failure := by
  induction s generalizing passed with
  | plain text =>
    constructor
    · rintro ⟨⟨earlier, later, hcalls, -⟩, -⟩
      simp [closedCalls] at hcalls
    · rintro ⟨_, _, ⟨⟩⟩
  | unclosed text rest =>
    constructor
    · rintro ⟨⟨earlier, later, hcalls, -⟩, -⟩
      simp [closedCalls] at hcalls
    · rintro ⟨_, _, ⟨⟩⟩
  | call text first rest ih =>
    rw [closedCalls, failsFirst_cons_iff, ih]
    constructor
    · rintro (⟨hcall, hbody⟩ | ⟨hfirst, before, rfl, hrest⟩)
      · obtain ⟨rfl, rfl⟩ := Prod.mk.inj hcall
        exact ⟨text, rfl, .here hbody⟩
      · exact ⟨text ++ braced first ++ before, by simp, .behind hfirst hrest⟩
    · rintro ⟨_, rfl, hmisspells⟩
      cases hmisspells with
      | here hbody => exact .inl ⟨rfl, hbody⟩
      | @behind _ _ _ before _ _ hfirst hrest => exact .inr ⟨hfirst, before, by simp, hrest⟩

/-- A closed call stands behind what is said to stand in front of it. -/
theorem exists_source_eq_of_mem_closedCalls (hmem : call ∈ s.closedCalls passed) :
    ∃ behind, passed ++ s.source = call.1 ++ braced call.2 ++ behind := by
  induction s generalizing passed with
  | plain text => cases hmem
  | unclosed text rest => cases hmem
  | call text body rest ih =>
    rw [closedCalls, List.mem_cons] at hmem
    rcases hmem with rfl | hmem
    · exact ⟨rest.source, by simp [Splitting.source, braced]⟩
    · obtain ⟨behind, hbehind⟩ := ih hmem
      exact ⟨behind, by rw [← hbehind]; simp [Splitting.source, braced]⟩

theorem leftmost_braced (htext : ¬ HasPair '{' (front ++ ['{']))
    (hbody : ¬ HasPair '}' (body ++ ['}'])) :
    leftmost (front ++ braced body ++ rest) = .call front body (leftmost rest) := by
  rw [← leftmost_call htext hbody]
  simp [braced]

/-- What stands behind the first misspelled call does not matter. -/
theorem Misspells.of_prefix (h : (leftmost cs).Misspells before body failure)
    (hstarts : before ++ braced body <+: ds) : (leftmost ds).Misspells before body failure := by
  induction cs using induction_leftmost generalizing before ds with
  | plain cs hcs =>
    rw [leftmost_plain hcs] at h
    cases h
  | unclosed text rest htext hrest =>
    rw [leftmost_unclosed htext hrest] at h
    cases h
  | call text first rest htext hfirst ih =>
    rw [leftmost_call htext hfirst] at h
    obtain ⟨behind, rfl⟩ := hstarts
    cases h with
    | here hbody =>
      rw [leftmost_braced htext hfirst]
      exact .here hbody
    | @behind _ _ _ before _ _ hbody hrest =>
      -- The first call is cut off, and what follows it begins like the rest.
      have hsource : text ++ braced first ++ before ++ braced body ++ behind =
          text ++ braced first ++ (before ++ braced body ++ behind) := by simp
      rw [hsource, leftmost_braced htext hfirst]
      exact .behind hbody (ih hrest (List.prefix_append ..))

/-- No pair of closing braces is made where an opening one stands between two texts. -/
theorem not_hasPair_opened (hbody : ¬ HasPair '}' body) (hrest : ¬ HasPair '}' rest) :
    ¬ HasPair '}' (body ++ '{' :: rest) := by
  have hbrace : ¬ HasPair '}' ['{'] := by decide
  have hopened : ¬ HasPair '}' ('{' :: rest) := by
    rw [← List.singleton_append, hasPair_append_iff]
    simp [hbrace, hrest]
  rw [hasPair_append_iff]
  simp [hbody, hopened]

/-- A call that is left open adds no closed call, whatever stands in front of it. -/
theorem bodies_leftmost_open (hrest : ¬ HasPair '}' rest) :
    (leftmost (front ++ '{' :: '{' :: rest)).bodies = (leftmost front).bodies := by
  induction front using induction_leftmost with
  | plain front hfront =>
    -- A brace at the end of the text makes the pair with the first one behind it.
    obtain ⟨text, inner, hcut, htext, hinner⟩ : ∃ text inner,
        front ++ '{' :: '{' :: rest = text ++ '{' :: '{' :: inner ∧
          ¬ HasPair '{' (text ++ ['{']) ∧ ¬ HasPair '}' inner := by
      by_cases hlast : front.getLast? = some '{'
      · obtain ⟨text, rfl⟩ := List.getLast?_eq_some_iff.mp hlast
        exact ⟨text, '{' :: rest, by simp, hfront, not_hasPair_opened not_hasPair_nil hrest⟩
      · exact ⟨front, rest, rfl, by simp [hasPair_concat_iff, hlast, hfront], hrest⟩
    rw [hcut, leftmost_unclosed htext hinner, leftmost_plain hfront, bodies, bodies]
  | unclosed text inner htext hinner =>
    have hopen : ¬ HasPair '}' (inner ++ '{' :: '{' :: rest) :=
      not_hasPair_opened hinner (not_hasPair_opened not_hasPair_nil hrest)
    have hsource : text ++ '{' :: '{' :: inner ++ '{' :: '{' :: rest =
        text ++ '{' :: '{' :: (inner ++ '{' :: '{' :: rest) := by simp
    rw [hsource, leftmost_unclosed htext hopen, leftmost_unclosed htext hinner, bodies, bodies]
  | call text body behind htext hbody ih =>
    have hsource : text ++ '{' :: '{' :: (body ++ '}' :: '}' :: behind) ++ '{' :: '{' :: rest =
        text ++ '{' :: '{' :: (body ++ '}' :: '}' :: (behind ++ '{' :: '{' :: rest)) := by simp
    rw [hsource, leftmost_call htext hbody, leftmost_call htext hbody, bodies, bodies, ih]

end Splitting

/-- A source can be read exactly when all of its closed calls can. -/
theorem Document.exists_parse_eq_ok_iff {source : String} {origin : Path} :
    (∃ d, parse source origin = .ok d) ↔
      ∀ body ∈ (leftmost source.toList).bodies,
        ∃ invocation, Invocation.ofBody body = .ok invocation := by
  rw [← reads_iff]
  constructor
  · rintro ⟨d, h⟩
    exact ⟨d.nodes, parse_eq_ok_iff.mp h⟩
  · rintro ⟨nodes, h⟩
    exact ⟨⟨nodes⟩, parse_eq_ok_iff.mpr h⟩

/-- A closed call stands in the source where its place says. -/
theorem Splitting.FailsFirst.holds {source before body : List Char}
    {failure : Failure SpellingFault}
    (h : FailsFirst ((leftmost source).closedCalls []) before body failure) :
    (Span.behind before (braced body)).Holds source before (braced body) := by
  obtain ⟨⟨earlier, later, hcalls, -⟩, -⟩ := h
  have hmem : (before, body) ∈ (leftmost source).closedCalls [] := by simp [hcalls]
  obtain ⟨behind, hbehind⟩ := exists_source_eq_of_mem_closedCalls hmem
  rw [source_leftmost, List.nil_append] at hbehind
  exact .of_eq behind hbehind

/-- **A source fails with its first fault.** It fails with an error exactly when one of its closed
calls is misspelled and no closed call in front of it fails. The error is the fault of that call,
located in the source at what stands between its braces and at these, and has escaped from no call.
Every source that begins alike, up to the end of that call, fails with the same fault at the same
place. A call that is left open at the end, whatever stands in it, does not make a source fail. -/
theorem Document.parse_first_fault (source : String) (origin : Path) :
    (∀ error, parse source origin = .error (.reported error) ↔
      ∃ before body fault,
        FailsFirst ((leftmost source.toList).closedCalls []) before body (.reported fault) ∧
        error = .simple (.spelling fault)
          ⟨some ⟨origin, some (Span.behind before (braced body)), source⟩, []⟩) ∧
    (∀ before body fault,
      FailsFirst ((leftmost source.toList).closedCalls []) before body (.reported fault) →
        (Span.behind before (braced body)).start.IsTrue source.toList ∧
        (Span.behind before (braced body)).stop.IsTrue source.toList ∧
        (Span.behind before (braced body)).start.offset = before.length ∧
        (Span.behind before (braced body)).slice source.toList = braced body ∧
        ∀ other origin', before ++ braced body <+: other.toList →
          parse other origin' = .error (.reported (.simple (.spelling fault)
            ⟨some ⟨origin', some (Span.behind before (braced body)), other⟩, []⟩))) ∧
    ∀ rest : String, ¬ HasPair '}' rest.toList →
      ((∃ d, parse (source ++ "\x7b\x7b" ++ rest) origin = .ok d) ↔
        ∃ d, parse source origin = .ok d) := by
  refine ⟨fun error => ?_, fun before body fault h => ?_, fun rest hrest => ?_⟩
  · rw [parse_eq_error_iff]
    constructor
    · rintro ⟨before, body, fault | abort, hmisspells, herror⟩
      · cases herror
        exact ⟨before, body, fault,
          failsFirst_closedCalls_iff.mpr ⟨before, rfl, hmisspells⟩, rfl⟩
      · cases herror
    · rintro ⟨_, body, fault, hfails, rfl⟩
      obtain ⟨_, rfl, hmisspells⟩ := failsFirst_closedCalls_iff.mp hfails
      exact ⟨_, body, .reported fault, hmisspells, rfl⟩
  · refine ⟨h.holds.start_isTrue, h.holds.stop_isTrue, Position.origin_after_offset before,
      h.holds.slice_eq, fun other origin' hother => ?_⟩
    obtain ⟨_, rfl, hmisspells⟩ := failsFirst_closedCalls_iff.mp h
    exact parse_eq_error_iff.mpr ⟨_, body, .reported fault, hmisspells.of_prefix hother, rfl⟩
  · have hsource : (source ++ "\x7b\x7b" ++ rest).toList =
        source.toList ++ '{' :: '{' :: rest.toList := by simp
    rw [exists_parse_eq_ok_iff, exists_parse_eq_ok_iff, hsource,
      bodies_leftmost_open hrest]

/-- A source whose second call is misspelled, behind line feeds and in front of a call that is
misspelled in another way and of one that is left open. -/
def faultyLines : String :=
  "a\n\x7b\x7bf(1)\x7d\x7d\n\x7b\x7bg(x)\x7d\x7d\x7b\x7b?()\x7d\x7d\x7b\x7bh("

theorem Splitting.leftmost_faultyLines :
    leftmost faultyLines.toList = .call "a\n".toList "f(1)".toList
      (.call "\n".toList "g(x)".toList (.call [] "?()".toList (.unclosed [] "h(".toList))) := by
  have hlast : leftmost ('{' :: '{' :: "h(".toList) = .unclosed [] "h(".toList :=
    leftmost_unclosed_nil (by decide)
  have hthird : leftmost ('{' :: '{' :: ("?()".toList ++ '}' :: '}' :: '{' :: '{' :: "h(".toList)) =
      .call [] "?()".toList (.unclosed [] "h(".toList) := by
    rw [leftmost_call_nil (by decide), hlast]
  have hsecond : leftmost ("\n".toList ++ '{' :: '{' :: ("g(x)".toList ++ '}' :: '}' ::
        '{' :: '{' :: ("?()".toList ++ '}' :: '}' :: '{' :: '{' :: "h(".toList))) =
      .call "\n".toList "g(x)".toList (.call [] "?()".toList (.unclosed [] "h(".toList)) := by
    rw [leftmost_call (by decide) (by decide), hthird]
  rw [← hsecond]
  exact leftmost_call (by decide : ¬ HasPair '{' ("a\n".toList ++ ['{']))
    (by decide : ¬ HasPair '}' ("f(1)".toList ++ ['}']))

theorem Document.parse_first_fault_faultyLines :
    FailsFirst ((leftmost faultyLines.toList).closedCalls []) "a\n\x7b\x7bf(1)\x7d\x7d\n".toList
        "g(x)".toList (.reported (.invalidInteger "x")) ∧
      parse faultyLines .here = .error (.reported (.simple (.spelling (.invalidInteger "x"))
        ⟨some ⟨.here, some ⟨⟨3, 1, 11⟩, ⟨3, 9, 19⟩⟩, faultyLines⟩, []⟩)) ∧
      parse "a\n\x7b\x7bf(1)\x7d\x7d\n\x7b\x7bg(x)\x7d\x7d" .here =
        .error (.reported (.simple (.spelling (.invalidInteger "x"))
          ⟨some ⟨.here, some ⟨⟨3, 1, 11⟩, ⟨3, 9, 19⟩⟩,
            "a\n\x7b\x7bf(1)\x7d\x7d\n\x7b\x7bg(x)\x7d\x7d"⟩, []⟩)) := by
  have hfirst : Invocation.ofBody "f(1)".toList = .ok ⟨"f", [.number 1]⟩ := rfl
  have hfails : FailsFirst ((leftmost faultyLines.toList).closedCalls [])
      "a\n\x7b\x7bf(1)\x7d\x7d\n".toList "g(x)".toList (.reported (.invalidInteger "x")) := by
    rw [leftmost_faultyLines]
    exact ⟨⟨[("a\n".toList, "f(1)".toList)], _, rfl,
      List.forall_mem_singleton.mpr ⟨_, hfirst⟩⟩, rfl⟩
  obtain ⟨hiff, hplace, -⟩ := Document.parse_first_fault faultyLines .here
  obtain ⟨-, -, -, -, hother⟩ := hplace _ _ _ hfails
  exact ⟨hfails, (hiff _).mpr ⟨_, _, _, hfails, rfl⟩, hother _ .here (by decide)⟩

end Transclude
