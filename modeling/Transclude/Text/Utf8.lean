/-!
# UTF-8

Bytes are read as text by the encoding form UTF-8. Overlong forms, surrogates and code points past
the last plane are refused. What is refused is the longest beginning of a sequence that is still
well formed, or its first byte if there is none, so a fault says exactly which bytes are bad.

## Main definitions

* `Utf8.decode` — the text that bytes spell, or the first fault
* `Utf8.Fault` — the bad bytes and what is wrong with them
* `Utf8.encode` — the bytes that spell a text
-/

namespace Transclude.Utf8

/-- What can be wrong with a sequence of bytes. -/
inductive Reason
  /-- The byte can begin no sequence. -/
  | invalidStart
  /-- A byte that has to continue the sequence does not. -/
  | invalidContinuation
  /-- The bytes end inside a sequence. -/
  | unexpectedEnd
  deriving DecidableEq

/-- Bad bytes: the first one's value and place, how many they are, and what is wrong. -/
structure Fault where
  byte : UInt8
  position : Nat
  count : Nat
  reason : Reason
  deriving DecidableEq

/-- Whether a byte can only continue a sequence. -/
def isContinuation (b : UInt8) : Bool :=
  0x80 ≤ b && b < 0xC0

/-- Whether `b` can be the second byte of a sequence of three or four bytes that begins with
`lead`: it continues, and the sequence is not overlong, no surrogate and not past the last
plane. -/
def isSecond (lead b : UInt8) : Bool :=
  isContinuation b &&
    !(lead == 0xE0 && b < 0xA0) && !(lead == 0xED && 0xA0 ≤ b) &&
    !(lead == 0xF0 && b < 0x90) && !(lead == 0xF4 && 0x90 ≤ b)

/-- The payload of a continuation byte. -/
def payload (b : UInt8) : Nat :=
  b.toNat % 0x40

/-- The characters spelled by bytes of which the first stands at `position`, behind the characters
`read`, last one first. -/
def decodeFrom (position : Nat) (read : List Char) : List UInt8 → Except Fault (List Char)
  | [] => .ok read.reverse
  | a :: rest =>
    let fault count reason := .error ⟨a, position, count, reason⟩
    if a < 0x80 then decodeFrom (position + 1) (Char.ofNat a.toNat :: read) rest
    -- Below 0xC2 are the bytes that only continue, and two that would begin overlong forms.
    else if a < 0xC2 then fault 1 .invalidStart
    else if a < 0xE0 then
      match rest with
      | [] => fault 1 .unexpectedEnd
      | b :: rest =>
        if isContinuation b then
          decodeFrom (position + 2) (Char.ofNat (a.toNat % 0x20 * 0x40 + payload b) :: read) rest
        else fault 1 .invalidContinuation
    else if a < 0xF0 then
      match rest with
      | [] => fault 1 .unexpectedEnd
      | b :: rest =>
        if isSecond a b then
          match rest with
          | [] => fault 2 .unexpectedEnd
          | c :: rest =>
            if isContinuation c then
              decodeFrom (position + 3)
                (Char.ofNat ((a.toNat % 0x10 * 0x40 + payload b) * 0x40 + payload c) :: read) rest
            else fault 2 .invalidContinuation
        else fault 1 .invalidContinuation
    else if a < 0xF5 then
      match rest with
      | [] => fault 1 .unexpectedEnd
      | b :: rest =>
        if isSecond a b then
          match rest with
          | [] => fault 2 .unexpectedEnd
          | c :: rest =>
            if isContinuation c then
              match rest with
              | [] => fault 3 .unexpectedEnd
              | d :: rest =>
                if isContinuation d then
                  decodeFrom (position + 4)
                    (Char.ofNat (((a.toNat % 8 * 0x40 + payload b) * 0x40 + payload c) * 0x40 +
                      payload d) :: read) rest
                else fault 3 .invalidContinuation
            else fault 2 .invalidContinuation
        else fault 1 .invalidContinuation
    else fault 1 .invalidStart

/-- The text that bytes spell. -/
def decode (bytes : List UInt8) : Except Fault String :=
  String.ofList <$> decodeFrom 0 [] bytes

/-- The bytes that spell a text. -/
def encode (s : String) : List UInt8 :=
  s.toList.flatMap String.utf8EncodeChar

end Transclude.Utf8
