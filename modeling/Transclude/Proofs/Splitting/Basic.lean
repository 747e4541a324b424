import Transclude.Document.Invocation
import Transclude.Document.Scan
import Transclude.Proofs.Splitting.Pair

/-!
# Leftmost splittings

A text is cut at its pairs of braces by looking for them: the leftmost pair of opening braces ends
the plain text, and the leftmost pair of closing braces behind it ends the call. This says what a
scan should find without saying how it goes about it; `Transclude.Proofs.Splitting.Scan` shows that
the scan finds the same.

## Main definitions

* `braced` — a call as it is written
* `Splitting` — a text cut at pairs of braces
* `Splitting.leftmost` — the splitting at the leftmost pairs
* `Splitting.source` — the text that was cut
* `Splitting.bodies`, `Splitting.isUnclosed` — the closed calls, and whether one is left open
* `Splitting.outline` — what the parts of a splitting say
* `Splitting.pieces` — the parts with their places

## Main results

* `Splitting.leftmost_plain`, `Splitting.leftmost_unclosed`, `Splitting.leftmost_call` — the
  leftmost splitting of a text that is put together from parts
* `Splitting.induction_leftmost` — a text is put together in one of these three ways
* `Splitting.source_leftmost` — cutting loses nothing
-/

namespace Transclude

/-- A call as it is written, with braces around its body. -/
def braced (body : List Char) : List Char :=
  '{' :: '{' :: (body ++ ['}', '}'])

@[simp] theorem braced_inj {body body' : List Char} :
    braced body = braced body' ↔ body = body' := by
  simp [braced]

/-- A text cut at pairs of braces. -/
inductive Splitting
  /-- No pair opens a call. -/
  | plain (text : List Char)
  /-- A pair behind the text opens a call, and no pair closes it. -/
  | unclosed (text rest : List Char)
  /-- A call stands behind the text and in front of the rest. -/
  | call (text body : List Char) (rest : Splitting)

namespace Splitting

/-- The splitting of a text at the leftmost pairs of braces. -/
def leftmost (cs : List Char) : Splitting :=
  match _found : pairIndex? '{' cs with
  | none => .plain cs
  | some i =>
    let behind := cs.drop (i + 2)
    match pairIndex? '}' behind with
    | none => .unclosed (cs.take i) behind
    | some j => .call (cs.take i) (behind.take j) (leftmost (behind.drop (j + 2)))
termination_by cs.length
decreasing_by
  obtain ⟨text, rest, rfl, -, -⟩ := pairIndex?_eq_some_iff.mp _found
  simp only [List.length_drop, List.length_append, List.length_cons]
  omega

/-- The text that was cut. -/
def source : Splitting → List Char
  | plain text => text
  | unclosed text rest => text ++ '{' :: '{' :: rest
  | call text body rest => text ++ '{' :: '{' :: (body ++ '}' :: '}' :: rest.source)

/-- What stands in the closed calls. -/
def bodies : Splitting → List (List Char)
  | plain _ | unclosed _ _ => []
  | call _ body rest => body :: rest.bodies

/-- Whether a call is left open. -/
def isUnclosed : Splitting → Bool
  | plain _ => false
  | unclosed _ _ => true
  | call _ _ rest => rest.isUnclosed

/-- What the parts say: texts, and the invocations that the closed calls spell. The braces of a
call that is left open are dropped, and what follows them is one more text. -/
def outline : Splitting → Except (Failure SpellingFault) (List (String ⊕ Invocation))
  | plain text => .ok [.inl (String.ofList text)]
  | unclosed text rest => .ok [.inl (String.ofList text), .inl (String.ofList rest)]
  | call text body rest => do
    let invocation ← Invocation.ofBody body
    let others ← rest.outline
    return .inl (String.ofList text) :: .inr invocation :: others

/-- The parts as pieces of a source, when the text that was cut stands at a position. -/
def pieces (p : Position) : Splitting → List Piece
  | plain text => [.text text ⟨p, p.after text⟩]
  | unclosed text rest =>
    let inside := (p.after text).after ['{', '{']
    [.text text ⟨p, p.after text⟩, .text rest ⟨inside, inside.after rest⟩]
  | call text body rest =>
    let opened := p.after text
    let behind := opened.after ('{' :: '{' :: (body ++ ['}', '}']))
    .text text ⟨p, opened⟩ :: .call body ⟨opened, behind⟩ :: rest.pieces behind

theorem pieces_call {text body : List Char} {rest : Splitting} {p : Position} :
    (call text body rest).pieces p =
      .text text ⟨p, p.after text⟩ ::
        .call body ⟨p.after text, (p.after text).after (braced body)⟩ ::
        rest.pieces ((p.after text).after (braced body)) := rfl

variable {text body rest cs : List Char}

theorem leftmost_plain (h : ¬ HasPair '{' cs) : leftmost cs = .plain cs := by
  rw [leftmost]
  split
  · rfl
  · rename_i found
    rw [pairIndex?_eq_none h] at found
    contradiction

theorem leftmost_unclosed (htext : ¬ HasPair '{' (text ++ ['{'])) (hrest : ¬ HasPair '}' rest) :
    leftmost (text ++ '{' :: '{' :: rest) = .unclosed text rest := by
  have hbehind : (text ++ '{' :: '{' :: rest).drop (text.length + 2) = rest := by simp
  rw [leftmost]
  split
  · rename_i missed
    rw [pairIndex?_append htext] at missed
    contradiction
  · rename_i i found
    obtain rfl : text.length = i := Option.some.inj ((pairIndex?_append htext).symm.trans found)
    simp only [hbehind, pairIndex?_eq_none hrest, List.take_left']

theorem leftmost_call (htext : ¬ HasPair '{' (text ++ ['{']))
    (hbody : ¬ HasPair '}' (body ++ ['}'])) :
    leftmost (text ++ '{' :: '{' :: (body ++ '}' :: '}' :: rest)) =
      .call text body (leftmost rest) := by
  have hbehind : (text ++ '{' :: '{' :: (body ++ '}' :: '}' :: rest)).drop (text.length + 2) =
      body ++ '}' :: '}' :: rest := by simp
  have hafter : (body ++ '}' :: '}' :: rest).drop (body.length + 2) = rest := by simp
  rw [leftmost]
  split
  · rename_i missed
    rw [pairIndex?_append htext] at missed
    contradiction
  · rename_i i found
    obtain rfl : text.length = i := Option.some.inj ((pairIndex?_append htext).symm.trans found)
    simp only [hbehind, pairIndex?_append hbody, hafter, List.take_left']

theorem leftmost_unclosed_nil (hrest : ¬ HasPair '}' rest) :
    leftmost ('{' :: '{' :: rest) = .unclosed [] rest :=
  leftmost_unclosed (by decide : ¬ HasPair '{' ([] ++ ['{'])) hrest

theorem leftmost_call_nil (hbody : ¬ HasPair '}' (body ++ ['}'])) :
    leftmost ('{' :: '{' :: (body ++ '}' :: '}' :: rest)) = .call [] body (leftmost rest) :=
  leftmost_call (by decide : ¬ HasPair '{' ([] ++ ['{'])) hbody

/-- Every text is plain, or is cut at its leftmost pairs into parts of which only the last one is
to be cut again. -/
theorem induction_leftmost {P : List Char → Prop}
    (plain : ∀ cs, ¬ HasPair '{' cs → P cs)
    (unclosed : ∀ text rest, ¬ HasPair '{' (text ++ ['{']) → ¬ HasPair '}' rest →
      P (text ++ '{' :: '{' :: rest))
    (call : ∀ text body rest, ¬ HasPair '{' (text ++ ['{']) → ¬ HasPair '}' (body ++ ['}']) →
      P rest → P (text ++ '{' :: '{' :: (body ++ '}' :: '}' :: rest)))
    (cs : List Char) : P cs := by
  induction hn : cs.length using Nat.strong_induction_on generalizing cs with
  | _ n ih =>
    cases hopen : pairIndex? '{' cs with
    | none => exact plain cs (pairIndex?_eq_none_iff.mp hopen)
    | some i =>
      obtain ⟨text, behind, rfl, -, htext⟩ := pairIndex?_eq_some_iff.mp hopen
      cases hclose : pairIndex? '}' behind with
      | none => exact unclosed text behind htext (pairIndex?_eq_none_iff.mp hclose)
      | some j =>
        obtain ⟨body, rest, rfl, -, hbody⟩ := pairIndex?_eq_some_iff.mp hclose
        refine call text body rest htext hbody (ih rest.length ?_ rest rfl)
        rw [← hn]
        simp only [List.length_append, List.length_cons]
        omega

/-- Cutting loses nothing. -/
theorem source_leftmost (cs : List Char) : (leftmost cs).source = cs := by
  induction cs using induction_leftmost with
  | plain cs h => rw [leftmost_plain h, source]
  | unclosed text rest htext hrest => rw [leftmost_unclosed htext hrest, source]
  | call text body rest htext hbody ih => rw [leftmost_call htext hbody, source, ih]

/-- The pieces behind a text do not depend on it, apart from their places. -/
theorem pieces_leftmost_append {p : Position} (htext : ¬ HasPair '{' (text ++ ['{'])) :
    (leftmost (text ++ '{' :: '{' :: rest)).pieces p =
      .text text ⟨p, p.after text⟩ ::
        ((leftmost ('{' :: '{' :: rest)).pieces (p.after text)).tail := by
  cases hclose : pairIndex? '}' rest with
  | none =>
    have hrest := pairIndex?_eq_none_iff.mp hclose
    simp [leftmost_unclosed htext hrest, leftmost_unclosed_nil hrest, pieces]
  | some i =>
    obtain ⟨body, behind, rfl, -, hbody⟩ := pairIndex?_eq_some_iff.mp hclose
    simp [leftmost_call htext hbody, leftmost_call_nil hbody, pieces]

end Splitting

end Transclude
