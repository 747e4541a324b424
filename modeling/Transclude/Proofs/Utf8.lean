import Transclude.Text.Utf8
import Mathlib.Tactic.Convert
import Mathlib.Tactic.SplitIfs

/-!
# Reading UTF-8

Bytes can be read exactly if they encode a text, and then they are read as this text. A beginning
of one to four bytes that can be read spells one character: its bytes hold the number of the
character side by side, and there is no other way to spell the same number, because overlong forms
are refused.

## Main definitions

* `Utf8.IsSequence` — the well-formed sequences, by their payloads

## Main results

* `Utf8.isSecond_iff` — which second bytes fit a first one
* `Utf8.IsSequence.decodeFrom_append`, `Utf8.exists_isSequence_of_decodeFrom` — well-formed
  sequences are what is read, one character each
* `Utf8.isSequence_encodeChar`, `Utf8.IsSequence.exists_eq_encodeChar` — well-formed sequences are
  what characters are encoded as
* `Utf8.decode_eq_ok_iff` — the bytes that are read as a text are those that encode it
-/

namespace Transclude.Utf8

/-- The well-formed sequences of bytes, each with the number of the character that it spells: the
payloads of its bytes side by side, of as many bytes as are needed, and neither a surrogate nor past
the last plane. -/
inductive IsSequence : List UInt8 → Nat → Prop
  | one {v} (hv : v < 0x80) : IsSequence [.ofNat v] v
  | two {v w} (hlong : 2 ≤ v) (hv : v < 0x20) (hw : w < 0x40) :
      IsSequence [.ofNat (0xC0 + v), .ofNat (0x80 + w)] (v * 0x40 + w)
  | three {v w x} (hv : v < 0x10) (hw : w < 0x40) (hx : x < 0x40) (hlong : v = 0 → 0x20 ≤ w)
      (hsurrogate : v = 0xD → w < 0x20) :
      IsSequence [.ofNat (0xE0 + v), .ofNat (0x80 + w), .ofNat (0x80 + x)]
        ((v * 0x40 + w) * 0x40 + x)
  | four {v w x y} (hv : v < 5) (hw : w < 0x40) (hx : x < 0x40) (hy : y < 0x40)
      (hlong : v = 0 → 0x10 ≤ w) (hplane : v = 4 → w < 0x10) :
      IsSequence [.ofNat (0xF0 + v), .ofNat (0x80 + w), .ofNat (0x80 + x), .ofNat (0x80 + y)]
        (((v * 0x40 + w) * 0x40 + x) * 0x40 + y)

variable {a b : UInt8} {bytes rest : List UInt8} {n position v w : Nat} {read text : List Char}

theorem toNat_ofNat (h : n < 0x100) : (UInt8.ofNat n).toNat = n := by
  rw [UInt8.toNat_ofNat', Nat.mod_eq_of_lt h]

theorem ofNat_lt_iff (h : n < 0x100) : UInt8.ofNat n < b ↔ n < b.toNat := by
  rw [UInt8.lt_iff_toNat_lt, toNat_ofNat h]

theorem payload_ofNat (hw : w < 0x40) : payload (.ofNat (0x80 + w)) = w := by
  rw [payload, toNat_ofNat (by omega)]
  omega

theorem isContinuation_iff : isContinuation b = true ↔ ∃ w < 0x40, b = .ofNat (0x80 + w) := by
  simp only [isContinuation, Bool.and_eq_true, decide_eq_true_eq, UInt8.le_iff_toNat_le,
    UInt8.lt_iff_toNat_lt, UInt8.reduceToNat]
  constructor
  · rintro ⟨hleast, hgreatest⟩
    refine ⟨b.toNat - 0x80, by omega, ?_⟩
    rw [Nat.add_sub_cancel' hleast, UInt8.ofNat_toNat]
  · rintro ⟨w, hw, rfl⟩
    rw [toNat_ofNat (by omega)]
    omega

theorem isContinuation_ofNat (hw : w < 0x40) : isContinuation (.ofNat (0x80 + w)) = true :=
  isContinuation_iff.mpr ⟨w, hw, rfl⟩

theorem isSecond_iff : isSecond a b = true ↔ ∃ w < 0x40, b = .ofNat (0x80 + w) ∧
    (a.toNat = 0xE0 → 0x20 ≤ w) ∧ (a.toNat = 0xED → w < 0x20) ∧
    (a.toNat = 0xF0 → 0x10 ≤ w) ∧ (a.toNat = 0xF4 → w < 0x10) := by
  simp only [isSecond, Bool.and_eq_true, isContinuation_iff, Bool.not_eq_true',
    Bool.and_eq_false_iff, beq_eq_false_iff_ne, decide_eq_false_iff_not, ne_eq, ← UInt8.toNat_inj,
    UInt8.le_iff_toNat_le, UInt8.lt_iff_toNat_lt, UInt8.reduceToNat]
  constructor
  · rintro ⟨⟨⟨⟨⟨w, hw, heq⟩, h1⟩, h2⟩, h3⟩, h4⟩
    rw [toNat_ofNat (by omega)] at heq
    refine ⟨w, hw, by rwa [toNat_ofNat (by omega)], ?_⟩
    omega
  · rintro ⟨w, hw, heq, h⟩
    refine ⟨⟨⟨⟨⟨w, hw, heq⟩, ?_⟩, ?_⟩, ?_⟩, ?_⟩ <;> rw [toNat_ofNat (by omega)] at heq <;> omega

namespace IsSequence

/-- A well-formed sequence is read as one character. -/
theorem decodeFrom_append (h : IsSequence bytes n) :
    decodeFrom position read (bytes ++ rest) =
      decodeFrom (position + bytes.length) (Char.ofNat n :: read) rest := by
  cases h with
  | one hv =>
    rw [List.singleton_append, decodeFrom.eq_def]
    simp only [ofNat_lt_iff (show n < 0x100 by omega), UInt8.reduceToNat, if_pos hv,
      toNat_ofNat (show n < 0x100 by omega), List.length_singleton]
  | @two v w hlong hv hw =>
    have hlead : 0xC0 + v < 0x100 := by omega
    have hpayload : (0xC0 + v) % 0x20 = v := by omega
    rw [List.cons_append, List.singleton_append, decodeFrom.eq_def]
    simp only [ofNat_lt_iff hlead, toNat_ofNat hlead, UInt8.reduceToNat, payload_ofNat hw,
      isContinuation_ofNat hw, if_true, hpayload]
    rw [if_neg (by omega), if_neg (by omega), if_pos (by omega)]
    rfl
  | @three v w x hv hw hx hlong hsurrogate =>
    have hlead : 0xE0 + v < 0x100 := by omega
    have hpayload : (0xE0 + v) % 0x10 = v := by omega
    have hsecond : isSecond (.ofNat (0xE0 + v)) (.ofNat (0x80 + w)) = true := by
      refine isSecond_iff.mpr ⟨w, hw, rfl, ?_⟩
      rw [toNat_ofNat hlead]
      omega
    rw [List.cons_append, List.cons_append, List.singleton_append, decodeFrom.eq_def]
    simp only [ofNat_lt_iff hlead, toNat_ofNat hlead, UInt8.reduceToNat, payload_ofNat hw,
      payload_ofNat hx, hsecond, isContinuation_ofNat hx, if_true, hpayload]
    rw [if_neg (by omega), if_neg (by omega), if_neg (by omega), if_pos (by omega)]
    rfl
  | @four v w x y hv hw hx hy hlong hplane =>
    have hlead : 0xF0 + v < 0x100 := by omega
    have hpayload : (0xF0 + v) % 8 = v := by omega
    have hsecond : isSecond (.ofNat (0xF0 + v)) (.ofNat (0x80 + w)) = true := by
      refine isSecond_iff.mpr ⟨w, hw, rfl, ?_⟩
      rw [toNat_ofNat hlead]
      omega
    rw [List.cons_append, List.cons_append, List.cons_append, List.singleton_append,
      decodeFrom.eq_def]
    simp only [ofNat_lt_iff hlead, toNat_ofNat hlead, UInt8.reduceToNat, payload_ofNat hw,
      payload_ofNat hx, payload_ofNat hy, hsecond, isContinuation_ofNat hx,
      isContinuation_ofNat hy, if_true, hpayload]
    rw [if_neg (by omega), if_neg (by omega), if_neg (by omega), if_neg (by omega),
      if_pos (by omega)]
    rfl

/-- A well-formed sequence spells a character, and encodes it. -/
theorem exists_eq_encodeChar (h : IsSequence bytes n) :
    ∃ c : Char, c.toNat = n ∧ bytes = String.utf8EncodeChar c := by
  have hvalid : n.isValidChar := by
    cases h <;> (rw [Nat.isValidChar]; omega)
  -- Only numbers of characters are spelled, so the one of the character is not changed.
  have hchar : (Char.ofNat n).val.toNat = n := by
    rw [Char.ofNat, dif_pos hvalid]
    rfl
  refine ⟨.ofNat n, hchar, ?_⟩
  simp only [String.utf8EncodeChar, hchar]
  cases h with
  | one hv => rw [if_pos (by omega)]
  | @two v w hlong hv hw =>
    have hfirst : (v * 0x40 + w) / 64 % 32 + 192 = 0xC0 + v := by omega
    have hlast : (v * 0x40 + w) % 64 + 128 = 0x80 + w := by omega
    rw [if_neg (by omega), if_pos (by omega), hfirst, hlast]
  | @three v w x hv hw hx hlong hsurrogate =>
    have hfirst : ((v * 0x40 + w) * 0x40 + x) / 4096 % 16 + 224 = 0xE0 + v := by omega
    have hsecond : ((v * 0x40 + w) * 0x40 + x) / 64 % 64 + 128 = 0x80 + w := by omega
    have hlast : ((v * 0x40 + w) * 0x40 + x) % 64 + 128 = 0x80 + x := by omega
    rw [if_neg (by omega), if_neg (by omega), if_pos (by omega), hfirst, hsecond, hlast]
  | @four v w x y hv hw hx hy hlong hplane =>
    have hfirst : (((v * 0x40 + w) * 0x40 + x) * 0x40 + y) / 262144 % 8 + 240 = 0xF0 + v := by omega
    have hsecond : (((v * 0x40 + w) * 0x40 + x) * 0x40 + y) / 4096 % 64 + 128 = 0x80 + w := by omega
    have hthird : (((v * 0x40 + w) * 0x40 + x) * 0x40 + y) / 64 % 64 + 128 = 0x80 + x := by omega
    have hlast : (((v * 0x40 + w) * 0x40 + x) * 0x40 + y) % 64 + 128 = 0x80 + y := by omega
    rw [if_neg (by omega), if_neg (by omega), if_neg (by omega), hfirst, hsecond, hthird, hlast]

end IsSequence

/-- Every character is spelled by a well-formed sequence. -/
theorem exists_isSequence (c : Char) : ∃ bytes, IsSequence bytes c.toNat := by
  have hvalid : c.toNat < 0xD800 ∨ (0xDFFF < c.toNat ∧ c.toNat < 0x110000) := c.valid
  generalize c.toNat = n at hvalid
  by_cases hone : n < 0x80
  · exact ⟨_, .one hone⟩
  by_cases htwo : n < 0x800
  · have h := IsSequence.two (v := n / 0x40) (w := n % 0x40) (by omega) (by omega) (by omega)
    exact ⟨_, by convert h using 1; omega⟩
  by_cases hthree : n < 0x10000
  · have h := IsSequence.three (v := n / 0x1000) (w := n / 0x40 % 0x40) (x := n % 0x40) (by omega)
      (by omega) (by omega) (by omega) (by omega)
    exact ⟨_, by convert h using 1; omega⟩
  · have h := IsSequence.four (v := n / 0x40000) (w := n / 0x1000 % 0x40) (x := n / 0x40 % 0x40)
      (y := n % 0x40) (by omega) (by omega) (by omega) (by omega) (by omega) (by omega)
    exact ⟨_, by convert h using 1; omega⟩

theorem isSequence_encodeChar (c : Char) : IsSequence (String.utf8EncodeChar c) c.toNat := by
  obtain ⟨bytes, hbytes⟩ := exists_isSequence c
  -- Some sequence has the number of the character, and it can encode no other one.
  obtain ⟨c', hc', rfl⟩ := hbytes.exists_eq_encodeChar
  obtain rfl : c' = c := by rw [← Char.ofNat_toNat c', hc', Char.ofNat_toNat]
  exact hbytes

/-- A byte from `lead` on is `lead` and a payload. -/
theorem eq_ofNat_add (lead : Nat) (h : lead ≤ a.toNat) :
    a = .ofNat (lead + (a.toNat - lead)) := by
  rw [Nat.add_sub_cancel' h, UInt8.ofNat_toNat]

/-- What can be read begins with a well-formed sequence. -/
theorem exists_isSequence_of_decodeFrom (h : decodeFrom position read (a :: bytes) = .ok text) :
    ∃ sequence n rest, a :: bytes = sequence ++ rest ∧ IsSequence sequence n := by
  rw [decodeFrom.eq_def] at h
  simp only at h
  split_ifs at h with hone hstart htwo hthree hfour <;>
    simp only [UInt8.lt_iff_toNat_lt, UInt8.reduceToNat] at *
  -- The first byte tells how many there are; the bytes that begin no sequence are gone already.
  · exact ⟨_, _, bytes, by rw [UInt8.ofNat_toNat, List.singleton_append], .one hone⟩
  · split at h
    · cases h
    · split_ifs at h with hb
      obtain ⟨w, hw, rfl⟩ := isContinuation_iff.mp hb
      rw [eq_ofNat_add 0xC0 (a := a) (by omega)]
      exact ⟨_, _, _, rfl, .two (by omega) (by omega) hw⟩
  · split at h
    · cases h
    · split_ifs at h with hb
      split at h
      · cases h
      · split_ifs at h with hc
        obtain ⟨w, hw, rfl, hsecond⟩ := isSecond_iff.mp hb
        obtain ⟨x, hx, rfl⟩ := isContinuation_iff.mp hc
        rw [eq_ofNat_add 0xE0 (a := a) (by omega)]
        exact ⟨_, _, _, rfl, .three (by omega) hw hx (by omega) (by omega)⟩
  · split at h
    · cases h
    · split_ifs at h with hb
      split at h
      · cases h
      · split_ifs at h with hc
        split at h
        · cases h
        · split_ifs at h with hd
          obtain ⟨w, hw, rfl, hsecond⟩ := isSecond_iff.mp hb
          obtain ⟨x, hx, rfl⟩ := isContinuation_iff.mp hc
          obtain ⟨y, hy, rfl⟩ := isContinuation_iff.mp hd
          rw [eq_ofNat_add 0xF0 (a := a) (by omega)]
          exact ⟨_, _, _, rfl, .four (by omega) hw hx hy (by omega) (by omega)⟩

/-- The sequence that spells a character is read as this character. -/
theorem decodeFrom_encodeChar_append (c : Char) :
    decodeFrom position read (String.utf8EncodeChar c ++ rest) =
      decodeFrom (position + (String.utf8EncodeChar c).length) (c :: read) rest := by
  rw [(isSequence_encodeChar c).decodeFrom_append, Char.ofNat_toNat]

theorem decodeFrom_flatMap_encodeChar (position : Nat) (read behind : List Char) :
    decodeFrom position read (behind.flatMap String.utf8EncodeChar) =
      .ok (read.reverse ++ behind) := by
  induction behind generalizing position read with
  | nil => rw [List.flatMap_nil, decodeFrom.eq_def, List.append_nil]
  | cons c behind ih =>
    rw [List.flatMap_cons, decodeFrom_encodeChar_append, ih, List.reverse_cons, List.append_assoc,
      List.singleton_append]

/-- What can be read encodes the characters behind those that were read before. -/
theorem exists_eq_flatMap_of_decodeFrom (h : decodeFrom position read bytes = .ok text) :
    ∃ behind : List Char, bytes = behind.flatMap String.utf8EncodeChar := by
  induction hlength : bytes.length using Nat.strongRecOn generalizing bytes position read with
  | ind n ih =>
    subst hlength
    cases bytes with
    | nil => exact ⟨[], rfl⟩
    | cons a bytes =>
      obtain ⟨sequence, n, rest, heq, hsequence⟩ := exists_isSequence_of_decodeFrom h
      obtain ⟨c, -, rfl⟩ := hsequence.exists_eq_encodeChar
      -- The rest is shorter, because a character is encoded by one byte at least.
      rw [heq] at h ih ⊢
      rw [decodeFrom_encodeChar_append] at h
      have hshorter : rest.length < (String.utf8EncodeChar c ++ rest).length := by
        have hpos : 0 < (String.utf8EncodeChar c).length := by
          rw [String.length_utf8EncodeChar]
          exact c.utf8Size_pos
        rw [List.length_append]
        omega
      obtain ⟨behind, rfl⟩ := ih _ hshorter h rfl
      exact ⟨c :: behind, rfl⟩

/-- Bytes are read as a text exactly if they encode it. -/
theorem decode_eq_ok_iff {s : String} : decode bytes = .ok s ↔ bytes = encode s := by
  constructor
  · intro h
    rw [decode] at h
    cases hread : decodeFrom 0 [] bytes with
    | error fault => rw [hread] at h; cases h
    | ok text =>
      obtain ⟨behind, rfl⟩ := exists_eq_flatMap_of_decodeFrom hread
      rw [hread] at h
      rw [decodeFrom_flatMap_encodeChar] at hread
      cases hread
      cases h
      rw [encode, List.reverse_nil, List.nil_append, String.toList_ofList]
  · rintro rfl
    rw [decode, encode, decodeFrom_flatMap_encodeChar, List.reverse_nil, List.nil_append]
    exact congrArg Except.ok (String.ofList_toList)

end Transclude.Utf8
