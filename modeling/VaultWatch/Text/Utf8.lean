import VaultWatch.Text.Hex

/-!
# Reading bytes as UTF-8 text

`decode` reads a whole byte string and, when it cannot, says how far the text was good and how
many bytes make up the first bad sequence. A sequence that the end of the input cuts short has no
such length.
-/

namespace VaultWatch.Utf8

/-- Where and how a byte string stops being UTF-8 text. -/
structure Fault where
  /-- The number of bytes in front of the bad sequence. -/
  index : Nat
  /-- The length of the bad sequence; absent when the input ends inside it. -/
  badBytes : Option Nat
  deriving DecidableEq, Repr

/-- The wording of a fault. -/
def Fault.message (fault : Fault) : String :=
  match fault.badBytes with
  | some n => s!"invalid utf-8 sequence of {n} bytes from index {fault.index}"
  | none => s!"incomplete utf-8 byte sequence from index {fault.index}"

/-- Continuation bytes are `80` to `BF`. -/
def isContinuation (b : UInt8) : Bool :=
  0x80 ≤ b && b ≤ 0xBF

/-- The second byte that may follow a lead byte of a three-byte sequence: no overlong form and no
surrogate. -/
def second3Ok (lead second : UInt8) : Bool :=
  if lead == 0xE0 then 0xA0 ≤ second && second ≤ 0xBF
  else if lead == 0xED then 0x80 ≤ second && second ≤ 0x9F
  else isContinuation second

/-- The second byte that may follow a lead byte of a four-byte sequence: no overlong form and
nothing above `10FFFF`. -/
def second4Ok (lead second : UInt8) : Bool :=
  if lead == 0xF0 then 0x90 ≤ second && second ≤ 0xBF
  else if lead == 0xF4 then 0x80 ≤ second && second ≤ 0x8F
  else isContinuation second

/-- The low six bits of a continuation byte. -/
def tailBits (b : UInt8) : Nat :=
  b.toNat % 64

/-- Reads characters from `at` on, `at` being the number of bytes already read. -/
def decodeFrom (start : Nat) : Bytes → Except Fault (List Char)
  | [] => .ok []
  | a :: rest =>
    if a < 0x80 then
      (decodeFrom (start + 1) rest).map (Char.ofNat a.toNat :: ·)
    else if 0xC2 ≤ a && a ≤ 0xDF then
      match rest with
      | [] => .error ⟨start, none⟩
      | b :: rest =>
        if isContinuation b then
          (decodeFrom (start + 2) rest).map (Char.ofNat (a.toNat % 32 * 64 + tailBits b) :: ·)
        else .error ⟨start, some 1⟩
    else if 0xE0 ≤ a && a ≤ 0xEF then
      match rest with
      | [] => .error ⟨start, none⟩
      | b :: rest =>
        if second3Ok a b then
          match rest with
          | [] => .error ⟨start, none⟩
          | c :: rest =>
            if isContinuation c then
              (decodeFrom (start + 3) rest).map
                (Char.ofNat ((a.toNat % 16 * 64 + tailBits b) * 64 + tailBits c) :: ·)
            else .error ⟨start, some 2⟩
        else .error ⟨start, some 1⟩
    else if 0xF0 ≤ a && a ≤ 0xF4 then
      match rest with
      | [] => .error ⟨start, none⟩
      | b :: rest =>
        if second4Ok a b then
          match rest with
          | [] => .error ⟨start, none⟩
          | c :: rest =>
            if isContinuation c then
              match rest with
              | [] => .error ⟨start, none⟩
              | d :: rest =>
                if isContinuation d then
                  (decodeFrom (start + 4) rest).map
                    (Char.ofNat (((a.toNat % 8 * 64 + tailBits b) * 64 + tailBits c) * 64
                      + tailBits d) :: ·)
                else .error ⟨start, some 3⟩
            else .error ⟨start, some 2⟩
        else .error ⟨start, some 1⟩
    else .error ⟨start, some 1⟩

/-- The text of a byte string, or its first fault. -/
def decode (bytes : Bytes) : Except Fault String :=
  (decodeFrom 0 bytes).map String.ofList

/-- The bytes of a text. -/
def encode (text : String) : Bytes :=
  text.toUTF8.toList

end VaultWatch.Utf8
