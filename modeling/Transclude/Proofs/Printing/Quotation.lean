import Transclude.Proofs.Traversal
import Transclude.Text.Lines
import Transclude.Text.Quoted

/-!
# Quoted text can be read back

A quoted text tells where it ends and what it holds, whatever follows it: the first character is
the quote, no escaped character begins with it, and every escaped character can be told from the
next. So two quoted texts with something behind them are the same only if the texts are, and what
is behind them. All characters of a quoted text are printable, so it never breaks a line.

## Main definitions

* `Quoted.unescape` — the first character that escaped ones stand for, and what follows it

## Main results

* `Quoted.unescape_escape` — an escaped character can be read back
* `Quoted.encode_append_inj` — a quoted text tells where it ends and what it holds
* `Quoted.isPrintable_of_mem_encode` — a quoted text is made of printable characters
-/

namespace Transclude

namespace Quoted

variable {quote c d : Char} {cs ds rest rest' : List Char}

/-! ### Hexadecimal digits -/

/-- The value of a hexadecimal digit. -/
def hexDigitValue (c : Char) : Nat :=
  if c.toNat < 0x3A then c.toNat - 0x30 else c.toNat - 0x57

/-- The code point that hexadecimal digits write. -/
def codePoint (digits : List Char) : Nat :=
  digits.foldl (fun n c => 16 * n + hexDigitValue c) 0

theorem hexDigitValue_hexDigit {n : Nat} (h : n < 16) : hexDigitValue (hexDigit n) = n := by
  have hall : ∀ n < 16, hexDigitValue (hexDigit n) = n := by decide
  exact hall n h

theorem isPrintable_hexDigit {n : Nat} (h : n < 16) : isPrintable (hexDigit n) = true := by
  have hall : ∀ n < 16, isPrintable (hexDigit n) = true := by decide
  exact hall n h

@[simp] theorem length_hexDigits (width n : Nat) : (hexDigits width n).length = width := by
  induction width generalizing n with
  | zero => rfl
  | succ width ih => simp [hexDigits, ih]

/-- A number is read from its hexadecimal digits, if there are enough of them. -/
theorem codePoint_hexDigits {width n : Nat} (h : n < Nat.pow 16 width) :
    codePoint (hexDigits width n) = n := by
  induction width generalizing n with
  | zero =>
    have hzero : n < 1 := h
    obtain rfl : n = 0 := by omega
    rfl
  | succ width ih =>
    have hfront : n / 16 < Nat.pow 16 width := Nat.div_lt_of_lt_mul (by
      rwa [Nat.mul_comm])
    have hlast : hexDigitValue (hexDigit (n % 16)) = n % 16 :=
      hexDigitValue_hexDigit (Nat.mod_lt n (by decide))
    have hread := ih hfront
    rw [codePoint] at hread
    rw [hexDigits, codePoint, List.foldl_append, hread, List.foldl_cons, List.foldl_nil, hlast,
      Nat.div_add_mod]

theorem isPrintable_of_mem_hexDigits {width n : Nat} (h : d ∈ hexDigits width n) :
    isPrintable d = true := by
  induction width generalizing n with
  | zero => cases h
  | succ width ih =>
    rcases List.mem_append.mp h with h | h
    · exact ih h
    · rw [List.mem_singleton.mp h]
      exact isPrintable_hexDigit (Nat.mod_lt n (by decide))

/-! ### Escaped characters -/

/-- The character whose code point the first `width` characters write, and what follows them. -/
def coded (width : Nat) (cs : List Char) : Char × List Char :=
  (Char.ofNat (codePoint (cs.take width)), cs.drop width)

/-- The first character that escaped characters stand for, and what follows it. -/
def unescape : List Char → Option (Char × List Char)
  | '\\' :: 't' :: rest => some ('\t', rest)
  | '\\' :: 'n' :: rest => some ('\n', rest)
  | '\\' :: 'r' :: rest => some ('\r', rest)
  | '\\' :: 'x' :: rest => some (coded 2 rest)
  | '\\' :: 'u' :: rest => some (coded 4 rest)
  | '\\' :: 'U' :: rest => some (coded 8 rest)
  | '\\' :: c :: rest => some (c, rest)
  | c :: rest => some (c, rest)
  | [] => none

theorem coded_hexDigits {width : Nat} (h : c.toNat < Nat.pow 16 width) (rest : List Char) :
    coded width (hexDigits width c.toNat ++ rest) = (c, rest) := by
  have hlength := length_hexDigits width c.toNat
  rw [coded, List.take_left' hlength, List.drop_left' hlength, codePoint_hexDigits h,
    Char.ofNat_toNat]

/-- How a character is written between quotes. -/
inductive EscapedAs (q : Char) : Char → List Char → Prop
  | guarded {char} (h : char = q ∨ char = '\\') : EscapedAs q char ['\\', char]
  | short {char letter} (h : (char, letter) ∈ [('\t', 't'), ('\n', 'n'), ('\r', 'r')]) :
      EscapedAs q char ['\\', letter]
  | plain {char} (hquote : char ≠ q) (hbackslash : char ≠ '\\')
      (hprintable : isPrintable char = true) : EscapedAs q char [char]
  | coded {char letter width} (h : (letter, width) ∈ [('x', 2), ('u', 4), ('U', 8)])
      (hwidth : char.toNat < Nat.pow 16 width) :
      EscapedAs q char ('\\' :: letter :: hexDigits width char.toNat)

theorem escapedAs_escape (quote c : Char) : EscapedAs quote c (escape quote c) := by
  unfold escape
  split_ifs with hguarded htab hfeed hreturn hprintable hbyte hplane
  · exact .guarded (by simpa using hguarded)
  · exact .short (by simp [htab])
  · exact .short (by simp [hfeed])
  · exact .short (by simp [hreturn])
  · simp only [Bool.or_eq_true, decide_eq_true_eq, not_or] at hguarded
    exact .plain hguarded.1 hguarded.2 hprintable
  · exact .coded (by simp) hbyte
  · exact .coded (by simp) hplane
  · have hvalid : c.toNat < 0x110000 := by
      rcases c.valid with h | h
      · exact Nat.lt_trans h (by decide)
      · exact h.2
    exact .coded (by simp) (Nat.lt_trans hvalid (by decide))

theorem quoteOf_eq (cs : List Char) : quoteOf cs = '\'' ∨ quoteOf cs = '"' := by
  unfold quoteOf
  split
  · exact .inr rfl
  · exact .inl rfl

namespace EscapedAs

/-- An escaped character can be read back, whatever follows it. -/
theorem unescape_append (h : EscapedAs quote c cs) (hquote : quote = '\'' ∨ quote = '"')
    (rest : List Char) : unescape (cs ++ rest) = some (c, rest) := by
  cases h with
  | guarded h =>
    have hc : c = '\'' ∨ c = '"' ∨ c = '\\' := by
      rcases h with rfl | rfl
      · exact hquote.imp_right .inl
      · exact .inr (.inr rfl)
    rcases hc with rfl | rfl | rfl <;> rfl
  | short h =>
    simp only [List.mem_cons, Prod.mk.injEq, List.not_mem_nil, or_false] at h
    rcases h with ⟨rfl, rfl⟩ | ⟨rfl, rfl⟩ | ⟨rfl, rfl⟩ <;> rfl
  | plain _ hbackslash _ => simp [unescape, hbackslash]
  | coded h hwidth =>
    simp only [List.mem_cons, Prod.mk.injEq, List.not_mem_nil, or_false] at h
    rcases h with ⟨rfl, rfl⟩ | ⟨rfl, rfl⟩ | ⟨rfl, rfl⟩ <;>
      exact congrArg some (coded_hexDigits hwidth rest)

/-- No escaped character begins with the quote. -/
theorem head?_append_ne (h : EscapedAs quote c cs) (hquote : quote = '\'' ∨ quote = '"')
    (rest : List Char) : (cs ++ rest).head? ≠ some quote := by
  have hbackslash : '\\' ≠ quote := by rcases hquote with rfl | rfl <;> decide
  cases h with
  | plain hne _ _ => simpa using hne
  | _ => simpa using hbackslash

theorem isPrintable_of_mem (h : EscapedAs quote c cs) (hquote : quote = '\'' ∨ quote = '"')
    (hmem : d ∈ cs) : isPrintable d = true := by
  have hbackslash : isPrintable '\\' = true := by decide
  cases h with
  | guarded h =>
    rcases List.mem_pair.mp hmem with rfl | rfl
    · exact hbackslash
    rcases h with rfl | rfl
    · rcases hquote with rfl | rfl <;> decide
    · exact hbackslash
  | short h =>
    simp only [List.mem_cons, Prod.mk.injEq, List.not_mem_nil, or_false] at h
    rcases List.mem_pair.mp hmem with rfl | rfl
    · exact hbackslash
    rcases h with ⟨-, rfl⟩ | ⟨-, rfl⟩ | ⟨-, rfl⟩ <;> decide
  | plain _ _ hprintable =>
    rw [List.mem_singleton.mp hmem]
    exact hprintable
  | coded h hwidth =>
    simp only [List.mem_cons, Prod.mk.injEq, List.not_mem_nil, or_false] at h
    rcases List.mem_cons.mp hmem with rfl | hmem
    · exact hbackslash
    rcases List.mem_cons.mp hmem with rfl | hmem
    · rcases h with ⟨rfl, -⟩ | ⟨rfl, -⟩ | ⟨rfl, -⟩ <;> decide
    · exact isPrintable_of_mem_hexDigits hmem

end EscapedAs

/-! ### Quoted texts -/

/-- Escaped texts with the quote behind them are the same only if the texts are, and what follows
the quote. -/
theorem flatMap_escape_append_inj (hquote : quote = '\'' ∨ quote = '"')
    (h : cs.flatMap (escape quote) ++ quote :: rest = ds.flatMap (escape quote) ++ quote :: rest') :
    cs = ds ∧ rest = rest' := by
  induction cs generalizing ds with
  | nil =>
    cases ds with
    | nil => exact ⟨rfl, (List.cons.inj h).2⟩
    | cons d ds =>
      -- One text has ended, and the other one goes on with a character that is not the quote.
      rw [List.flatMap_cons, List.append_assoc] at h
      exact absurd (congrArg List.head? h).symm
        ((escapedAs_escape quote d).head?_append_ne hquote _)
  | cons c cs ih =>
    cases ds with
    | nil =>
      rw [List.flatMap_cons, List.append_assoc] at h
      exact absurd (congrArg List.head? h) ((escapedAs_escape quote c).head?_append_ne hquote _)
    | cons d ds =>
      rw [List.flatMap_cons, List.append_assoc, List.flatMap_cons, List.append_assoc] at h
      have hread := congrArg unescape h
      rw [(escapedAs_escape quote c).unescape_append hquote,
        (escapedAs_escape quote d).unescape_append hquote] at hread
      obtain ⟨rfl, hbehind⟩ := Prod.mk.inj (Option.some.inj hread)
      obtain ⟨rfl, rfl⟩ := ih hbehind
      exact ⟨rfl, rfl⟩

/-- **A quoted text tells where it ends and what it holds.** -/
theorem encode_append_inj : encode cs ++ rest = encode ds ++ rest' ↔ cs = ds ∧ rest = rest' := by
  constructor
  · intro h
    simp only [encode, List.cons_append, List.append_assoc] at h
    obtain ⟨hquote, hbehind⟩ := List.cons.inj h
    rw [← hquote] at hbehind
    exact flatMap_escape_append_inj (quoteOf_eq cs) hbehind
  · rintro ⟨rfl, rfl⟩
    rfl

/-- A quoted text is made of printable characters. -/
theorem isPrintable_of_mem_encode (h : c ∈ encode cs) : isPrintable c = true := by
  have hquote : isPrintable (quoteOf cs) = true := by
    rcases quoteOf_eq cs with h | h <;> rw [h] <;> decide
  simp only [encode, List.mem_cons, List.mem_append, List.mem_flatMap, List.not_mem_nil,
    or_false] at h
  rcases h with (rfl | ⟨d, -, hmem⟩) | rfl
  · exact hquote
  · exact (escapedAs_escape _ d).isPrintable_of_mem (quoteOf_eq cs) hmem
  · exact hquote

end Quoted

/-- The code points of the line boundaries. -/
def lineBreakCodes : List Nat :=
  [0xA, 0xB, 0xC, 0xD, 0x1C, 0x1D, 0x1E, 0x85, 0x2028, 0x2029]

/-- No line boundary is printable. -/
theorem isLineBreak_eq_false_of_isPrintable {c : Char} (h : isPrintable c = true) :
    isLineBreak c = false := by
  by_contra hbreak
  have hcode : c.toNat ∈ lineBreakCodes := by
    simp only [isLineBreak, Bool.not_eq_false, Bool.or_eq_true, Bool.and_eq_true,
      decide_eq_true_eq] at hbreak
    simp only [lineBreakCodes, List.mem_cons, List.not_mem_nil, or_false]
    omega
  have hall : ∀ n ∈ lineBreakCodes, isPrintable (Char.ofNat n) = false := by decide +kernel
  have hc : isPrintable c = false := of_toNat_mem (P := (isPrintable · = false)) hcode hall
  exact Bool.false_ne_true (hc.symm.trans h)

end Transclude
