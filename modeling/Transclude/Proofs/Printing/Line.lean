import Transclude.Document.Listing
import Transclude.Proofs.Printing.Argument
import Transclude.Proofs.Printing.Quotation
import Transclude.Proofs.Splitting.Outline

/-!
# The line of a node

A listing has a line for each node. The line tells which kind of node it is, all that the node says,
and the line and the column at which it starts: every part of it tells where it ends, so that lines
are the same only if all of their parts are. Texts and paths are quoted, the name of a function
holds no parenthesis, and no digit stands behind a number.

Only the path of the file can break a line of a listing, since it is the only part that is neither
quoted nor made of digits and names.

## Main definitions

* `Position.withoutOffset` — what is told of a position
* `Value.IsNormal`, `Invocation.IsNormal` — a path is made of names, and a name of letters and
  digits
* `BreaksNoLine` — a text holds no line boundary

## Main results

* `Numeral.repr_append_inj`, `Value.listing_append_inj`, `Value.intercalate_listing_append_inj` —
  numbers, arguments and lists of them tell where they end and which they are
* `Invocation.isNormal_of_ofBody` — what is read from the spelling of a call
* `Node.eq_of_listing_text_eq`, `Node.eq_of_listing_call_eq`, `Node.listing_text_ne_call` — what the
  line of a node tells
* `Node.exists_listing_eq` — only the path of the file can break a line
-/

namespace Transclude

open Quoted

/-! ### Numbers -/

namespace Numeral

variable {n m : Int} {c : Char} {rest rest' : List Char}

/-- A number is known by its decimal digits. -/
theorem eq_of_toList_repr_eq (h : n.repr.toList = m.repr.toList) : n = m := by
  have hread := congrArg strict? h
  rw [strict?_repr, strict?_repr] at hread
  obtain ⟨hsign, hdigits⟩ := Prod.mk.inj (Option.some.inj hread)
  have hvalue := congrArg value hdigits
  rw [value_map_toDigits, value_map_toDigits] at hvalue
  have hsign := decide_eq_decide.mp hsign
  omega

/-- A number tells where it ends, if no digit follows it. -/
theorem repr_append_inj (hdigit : c.isDigit = false) (hminus : c ≠ '-')
    (h : n.repr.toList ++ c :: rest = m.repr.toList ++ c :: rest') : n = m ∧ rest = rest' := by
  have hends (k : Int) : c ∉ k.repr.toList := fun hmem => by
    rcases Value.isDigit_or_eq_minus_of_mem_printed hmem with hc | hc
    · simp [hdigit] at hc
    · exact hminus hc
  obtain ⟨hrepr, -, hrest⟩ := append_cons_inj h (hends m) (hends n)
  exact ⟨eq_of_toList_repr_eq hrepr, hrest⟩

end Numeral

/-! ### Arguments -/

namespace Value

variable {v v' : Value} {vs vs' : List Value} {piece rest rest' : List Char}

/-- A value whose path, if it is one, is made of names. -/
def IsNormal : Value → Prop
  | .path p => p.IsNormal
  | _ => True

/-- Every path that is read is made of names. -/
theorem isNormal_of_ofPiece (h : ofPiece piece = .ok v) : v.IsNormal := by
  cases v with
  | string s => trivial
  | number n => trivial
  | path p =>
    -- Only what stands between number signs is read as a path.
    simp only [ofPiece] at h
    split at h
    · cases h
    · rename_i rest _
      cases hinner : literal? '"' rest <;> simp [hinner] at h
    · rename_i rest _
      cases hinner : literal? '#' rest with
      | none => simp [hinner] at h
      | some inner =>
        simp only [hinner, Option.elim_some, Except.ok.injEq, path.injEq] at h
        rw [← h]
        exact Path.isNormal_parse inner
    · simp only [parseNumber] at h
      split at h
      · cases h
      · split_ifs at h
        cases h

theorem toList_listing_string (s : String) :
    (string s).listing.toList = "String(".toList ++ (encode s.toList ++ [')']) := by
  simp [listing, Transclude.quoted, toString]

theorem toList_listing_path (p : Path) :
    (path p).listing.toList = "Path(".toList ++ (encode p.text.toList ++ [')']) := by
  simp [listing, Transclude.quoted, toString]

theorem toList_listing_number (n : Int) :
    (number n).listing.toList = "Number(".toList ++ (n.repr.toList ++ [')']) := by
  simp [listing, toString]

/-- A listed argument tells where it ends and which value it is. -/
theorem listing_append_inj (hv : v.IsNormal) (hv' : v'.IsNormal)
    (h : v.listing.toList ++ rest = v'.listing.toList ++ rest') : v = v' ∧ rest = rest' := by
  cases v with
  | string s =>
    cases v' with
    | string s' =>
      simp only [toList_listing_string, List.append_assoc, List.append_cancel_left_eq] at h
      obtain ⟨htext, hrest⟩ := encode_append_inj.mp h
      exact ⟨by rw [String.toList_inj.mp htext], List.append_cancel_left hrest⟩
    | path p' => simp [toList_listing_string, toList_listing_path] at h
    | number n' => simp [toList_listing_string, toList_listing_number] at h
  | path p =>
    cases v' with
    | string s' => simp [toList_listing_string, toList_listing_path] at h
    | path p' =>
      simp only [toList_listing_path, List.append_assoc, List.append_cancel_left_eq] at h
      obtain ⟨htext, hrest⟩ := encode_append_inj.mp h
      rw [← Path.parse_text hv, ← Path.parse_text hv', String.toList_inj.mp htext]
      exact ⟨rfl, List.append_cancel_left hrest⟩
    | number n' => simp [toList_listing_path, toList_listing_number] at h
  | number n =>
    cases v' with
    | string s' => simp [toList_listing_string, toList_listing_number] at h
    | path p' => simp [toList_listing_path, toList_listing_number] at h
    | number n' =>
      simp only [toList_listing_number, List.append_assoc, List.append_cancel_left_eq] at h
      obtain ⟨rfl, hrest⟩ := Numeral.repr_append_inj (by decide) (by decide) h
      exact ⟨rfl, hrest⟩

/-- What stands behind the first of some listed arguments. -/
def listingBehind (vs : List Value) : List Char :=
  vs.flatMap fun v => ", ".toList ++ v.listing.toList

theorem toList_intercalate_listing (v : Value) (vs : List Value) :
    (", ".intercalate ((v :: vs).map listing)).toList = v.listing.toList ++ listingBehind vs := by
  induction vs generalizing v with
  | nil => simp [listingBehind]
  | cons w vs ih =>
    have ih := ih w
    rw [String.toList_intercalate] at ih ⊢
    simp only [List.map_cons, List.intercalate_cons_cons] at ih ⊢
    rw [ih]
    simp [listingBehind]

theorem listingBehind_append_inj (hvs : ∀ v ∈ vs, v.IsNormal) (hvs' : ∀ v ∈ vs', v.IsNormal)
    (h : listingBehind vs ++ ')' :: rest = listingBehind vs' ++ ')' :: rest') :
    vs = vs' ∧ rest = rest' := by
  induction vs generalizing vs' with
  | nil =>
    cases vs' with
    | nil => exact ⟨rfl, (List.cons.inj h).2⟩
    | cons v' vs' => simp [listingBehind] at h
  | cons v vs ih =>
    cases vs' with
    | nil => simp [listingBehind] at h
    | cons v' vs' =>
      obtain ⟨hv, hbehind⟩ := List.forall_mem_cons.mp hvs
      obtain ⟨hv', hbehind'⟩ := List.forall_mem_cons.mp hvs'
      simp only [listingBehind, List.flatMap_cons, List.append_assoc,
        List.append_cancel_left_eq] at h
      obtain ⟨rfl, hnext⟩ := listing_append_inj hv hv' h
      obtain ⟨rfl, rfl⟩ := ih hbehind hbehind' hnext
      exact ⟨rfl, rfl⟩

theorem head?_listing_ne (v : Value) (rest : List Char) :
    (v.listing.toList ++ rest).head? ≠ some ')' := by
  cases v with
  | string s => simp [toList_listing_string]
  | path p => simp [toList_listing_path]
  | number n => simp [toList_listing_number]

/-- A list of arguments tells where it ends and which values it holds. -/
theorem intercalate_listing_append_inj (hvs : ∀ v ∈ vs, v.IsNormal) (hvs' : ∀ v ∈ vs', v.IsNormal)
    (h : (", ".intercalate (vs.map listing)).toList ++ ')' :: rest =
      (", ".intercalate (vs'.map listing)).toList ++ ')' :: rest') : vs = vs' ∧ rest = rest' := by
  cases vs with
  | nil =>
    cases vs' with
    | nil => exact ⟨rfl, (List.cons.inj h).2⟩
    | cons v' vs' =>
      rw [toList_intercalate_listing, List.append_assoc] at h
      exact absurd (congrArg List.head? h).symm (head?_listing_ne v' _)
  | cons v vs =>
    cases vs' with
    | nil =>
      rw [toList_intercalate_listing, List.append_assoc] at h
      exact absurd (congrArg List.head? h) (head?_listing_ne v _)
    | cons v' vs' =>
      obtain ⟨hv, hbehind⟩ := List.forall_mem_cons.mp hvs
      obtain ⟨hv', hbehind'⟩ := List.forall_mem_cons.mp hvs'
      simp only [toList_intercalate_listing, List.append_assoc] at h
      obtain ⟨rfl, hnext⟩ := listing_append_inj hv hv' h
      obtain ⟨rfl, rfl⟩ := listingBehind_append_inj hbehind hbehind' hnext
      exact ⟨rfl, rfl⟩

end Value

/-! ### Names -/

namespace Invocation

variable {name cs rest : List Char} {function : String} {body : List Char}
variable {invocation : Invocation}

/-- What is read from the spelling of a call: a name, and values whose paths are made of names. -/
structure IsNormal (i : Invocation) : Prop where
  isAlphanumeric_of_mem : ∀ c ∈ i.function.toList, isAlphanumeric c = true
  isNormal_of_mem : ∀ v ∈ i.arguments, v.IsNormal

theorem isAlphanumeric_of_splitNameFrom (hname : ∀ c ∈ name, isAlphanumeric c = true)
    (h : splitNameFrom name cs = .ok (some (function, rest))) :
    ∀ c ∈ function.toList, isAlphanumeric c = true := by
  fun_induction splitNameFrom name cs with
  | case1 => cases h
  | case2 name c cs halnum ih => exact ih (List.forall_mem_cons.mpr ⟨halnum, hname⟩) h
  | case3 name cs =>
    cases h
    simpa using hname
  | case4 name c cs _ _ _ ih => exact ih hname h
  | case5 => cases h

/-- A call that is read has a name, and values whose paths are made of names. -/
theorem isNormal_of_ofBody (h : ofBody body = .ok invocation) : invocation.IsNormal := by
  unfold ofBody at h
  split at h
  · cases h
  · cases h
    exact ⟨by simp, by simp⟩
  · rename_i function rest hsplit
    cases hvalues : (ArgumentPieces.split rest).meant.mapM Value.ofPiece with
    | error failure => simp [hvalues, Except.map] at h
    | ok values =>
      simp only [hvalues, Except.map, Except.ok.injEq] at h
      subst h
      refine ⟨isAlphanumeric_of_splitNameFrom (by simp) hsplit, fun v hv => ?_⟩
      obtain ⟨piece, -, hpiece⟩ := exists_mem_of_mapM_eq_ok hvalues hv
      exact Value.isNormal_of_ofPiece hpiece

end Invocation

/-! ### Places -/

/-- The position with the offset left out. -/
def Position.withoutOffset (p : Position) : Position :=
  { p with offset := 0 }

variable {origin : Path} {source : String} {p p' : Position} {span span' : Span}

theorem toList_placeText (origin : Path) (p : Position) :
    (placeText origin p).toList =
      origin.text.toList ++ ':' :: (p.line.repr.toList ++ ':' :: p.column.repr.toList) := by
  simp [placeText, toString]

/-- The text of a place tells its line and its column. -/
theorem withoutOffset_eq_of_placeText_eq (h : placeText origin p = placeText origin p') :
    p.withoutOffset = p'.withoutOffset := by
  have h := congrArg String.toList h
  rw [toList_placeText, toList_placeText] at h
  obtain ⟨hline, hcolumn⟩ :=
    Numeral.repr_append_inj (by decide) (by decide) (List.cons.inj (List.append_cancel_left h)).2
  simp [Position.withoutOffset, hline, Numeral.eq_of_toList_repr_eq hcolumn]

/-! ### Lines -/

namespace Node

variable {content content' : String} {i i' : Invocation}

theorem toList_listing_text (content : String) (origin : Path) (span : Span) :
    (text ⟨content, origin, some span⟩).listing.toList =
      "  Text(".toList ++ (encode content.toList ++
        (") @ ".toList ++ (placeText origin span.start).toList)) := by
  simp [listing, quoted, startText, toString]

theorem toList_listing_call (i : Invocation) (origin : Path) (span : Span) :
    (call ⟨i.function, i.arguments, origin, some span⟩).listing.toList =
      "  Call ".toList ++ (i.function.toList ++ '(' ::
        ((", ".intercalate (i.arguments.map Value.listing)).toList ++ ')' ::
          (" @ ".toList ++ (placeText origin span.start).toList))) := by
  simp [listing, startText, toString]

theorem listing_text_ne_call : (text ⟨content, origin, some span⟩).listing ≠
    (call ⟨i.function, i.arguments, origin, some span'⟩).listing := by
  intro h
  have h := congrArg String.toList h
  rw [toList_listing_text, toList_listing_call] at h
  simp at h

/-- The line of a text tells its content and where it starts. -/
theorem eq_of_listing_text_eq (h : (text ⟨content, origin, some span⟩).listing =
    (text ⟨content', origin, some span'⟩).listing) :
    content = content' ∧ span.start.withoutOffset = span'.start.withoutOffset := by
  have h := congrArg String.toList h
  rw [toList_listing_text, toList_listing_text] at h
  obtain ⟨hcontent, hplace⟩ := encode_append_inj.mp (List.append_cancel_left h)
  exact ⟨String.toList_inj.mp hcontent, withoutOffset_eq_of_placeText_eq
    (String.toList_inj.mp (List.append_cancel_left hplace))⟩

/-- The line of a call tells what it asks for and where it starts. -/
theorem eq_of_listing_call_eq (hi : i.IsNormal) (hi' : i'.IsNormal)
    (h : (call ⟨i.function, i.arguments, origin, some span⟩).listing =
      (call ⟨i'.function, i'.arguments, origin, some span'⟩).listing) :
    i = i' ∧ span.start.withoutOffset = span'.start.withoutOffset := by
  have h := congrArg String.toList h
  rw [toList_listing_call, toList_listing_call] at h
  -- Names hold no parenthesis.
  have hname {i : Invocation} (hi : i.IsNormal) : '(' ∉ i.function.toList := fun hmem =>
    absurd (hi.isAlphanumeric_of_mem _ hmem) (by decide)
  obtain ⟨hfunction, -, hbehind⟩ :=
    append_cons_inj (List.append_cancel_left h) (hname hi') (hname hi)
  obtain ⟨harguments, hplace⟩ :=
    Value.intercalate_listing_append_inj hi.isNormal_of_mem hi'.isNormal_of_mem hbehind
  obtain ⟨function, arguments⟩ := i
  obtain ⟨function', arguments'⟩ := i'
  rw [Invocation.mk.injEq]
  exact ⟨⟨String.toList_inj.mp hfunction, harguments⟩, withoutOffset_eq_of_placeText_eq
    (String.toList_inj.mp (List.append_cancel_left hplace))⟩

end Node

/-! ### Line breaks -/

/-- The text breaks no line. -/
def BreaksNoLine (cs : List Char) : Prop :=
  ∀ c ∈ cs, isLineBreak c = false

instance (cs : List Char) : Decidable (BreaksNoLine cs) :=
  List.decidableBAll (fun c => isLineBreak c = false) cs

theorem isLineBreak_eq_false_of_isBlank {c : Char} (h : isBlank c = false) :
    isLineBreak c = false := by
  by_contra hbreak
  have hblank : isBlank c = true := by
    simp only [isLineBreak, isBlank, Bool.not_eq_false, Bool.or_eq_true, Bool.and_eq_true,
      decide_eq_true_eq] at hbreak ⊢
    omega
  rw [hblank] at h
  contradiction

namespace BreaksNoLine

variable {cs ds : List Char} {v : Value} {vs : List Value} {i : Invocation}

theorem append (hcs : BreaksNoLine cs) (hds : BreaksNoLine ds) : BreaksNoLine (cs ++ ds) :=
  List.forall_mem_append.mpr ⟨hcs, hds⟩

theorem encode (cs : List Char) : BreaksNoLine (encode cs) := fun _ hmem =>
  isLineBreak_eq_false_of_isPrintable (isPrintable_of_mem_encode hmem)

theorem repr (n : Int) : BreaksNoLine n.repr.toList := fun _ hmem =>
  isLineBreak_eq_false_of_isBlank (Value.not_isBlank_number hmem)

theorem function (hi : i.IsNormal) : BreaksNoLine i.function.toList := fun c hmem => by
  refine isLineBreak_eq_false_of_isBlank ?_
  by_contra hblank
  have halnum := hi.isAlphanumeric_of_mem c hmem
  rw [isAlphanumeric_eq_false_of_isBlank (Bool.not_eq_false _ ▸ hblank)] at halnum
  contradiction

theorem listing (v : Value) : BreaksNoLine v.listing.toList := by
  cases v with
  | string s =>
    rw [Value.toList_listing_string]
    exact .append (by decide) (.append (.encode _) (by decide))
  | path p =>
    rw [Value.toList_listing_path]
    exact .append (by decide) (.append (.encode _) (by decide))
  | number n =>
    rw [Value.toList_listing_number]
    exact .append (by decide) (.append (.repr _) (by decide))

theorem listings (vs : List Value) :
    BreaksNoLine (", ".intercalate (vs.map Value.listing)).toList := by
  cases vs with
  | nil => decide
  | cons v vs =>
    rw [Value.toList_intercalate_listing]
    refine .append (listing v) fun c hmem => ?_
    obtain ⟨w, -, hmem⟩ := List.mem_flatMap.mp hmem
    exact append (by decide) (listing w) c hmem

end BreaksNoLine

/-- The text of a place is the path of the file, and a line and a column behind it. -/
theorem exists_placeText_eq (origin : Path) (p : Position) :
    ∃ behind, (placeText origin p).toList = origin.text.toList ++ behind ∧ BreaksNoLine behind := by
  refine ⟨_, toList_placeText origin p, ?_⟩
  exact .append (by decide : BreaksNoLine [':'])
    (.append (.repr _) (.append (by decide : BreaksNoLine [':']) (.repr _)))

/-- In the line of a node, only the path of the file can break lines. -/
theorem Node.exists_listing_eq {piece : Piece} {node : Node}
    (h : piece.read origin source = .ok node) :
    ∃ front behind, node.listing.toList = front ++ (origin.text.toList ++ behind) ∧
      BreaksNoLine front ∧ BreaksNoLine behind := by
  cases piece with
  | text content span =>
    cases h
    obtain ⟨behind, hplace, hbehind⟩ := exists_placeText_eq origin span.start
    refine ⟨"  Text(".toList ++ (Quoted.encode content ++ ") @ ".toList), behind, ?_, ?_, hbehind⟩
    · rw [toList_listing_text, hplace]
      simp only [String.toList_ofList, List.append_assoc]
    · exact .append (by decide) (.append (.encode _) (by decide))
  | call body span =>
    obtain ⟨i, hbody, rfl⟩ := Piece.read_call_eq_ok_iff.mp h
    have hi := Invocation.isNormal_of_ofBody hbody
    obtain ⟨behind, hplace, hbehind⟩ := exists_placeText_eq origin span.start
    refine ⟨"  Call ".toList ++ (i.function.toList ++ (['('] ++
      ((", ".intercalate (i.arguments.map Value.listing)).toList ++ ") @ ".toList))), behind,
      ?_, ?_, hbehind⟩
    · rw [toList_listing_call, hplace]
      simp
    · exact .append (by decide) (.append (.function hi)
        (.append (by decide) (.append (.listings _) (by decide))))

end Transclude
