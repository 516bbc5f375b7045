/-!
# Reading bytes as text

`decode` reads well-formed UTF-8 and refuses anything else. `decodeLossy` reads every sequence of bytes: each longest
prefix of a character's encoding that cannot be continued, and each byte that starts none, becomes one U+FFFD.
-/

namespace StagedLaunch.Utf8

/-- How many bytes follow a first byte, and the range in which the first of them lies. -/
structure Lead where
  /-- How many bytes follow. -/
  more : Nat
  /-- The least second byte. -/
  low : UInt8
  /-- The greatest second byte. -/
  high : UInt8
  /-- The bits of the code point that the first byte holds. -/
  bits : Nat
deriving DecidableEq

/-- What a byte announces as the first one of a character; `none` if no character starts with it. -/
def lead? (b : UInt8) : Option Lead :=
  if b < 0x80 then some ⟨0, 0, 0, b.toNat⟩
  else if 0xC2 ≤ b && b ≤ 0xDF then some ⟨1, 0x80, 0xBF, b.toNat - 0xC0⟩
  else if b == 0xE0 then some ⟨2, 0xA0, 0xBF, 0⟩
  else if b == 0xED then some ⟨2, 0x80, 0x9F, 13⟩
  else if 0xE1 ≤ b && b ≤ 0xEF then some ⟨2, 0x80, 0xBF, b.toNat - 0xE0⟩
  else if b == 0xF0 then some ⟨3, 0x90, 0xBF, 0⟩
  else if 0xF1 ≤ b && b ≤ 0xF3 then some ⟨3, 0x80, 0xBF, b.toNat - 0xF0⟩
  else if b == 0xF4 then some ⟨3, 0x80, 0x8F, 4⟩
  else none

/-- A character that is not yet complete: how many bytes it lacks, where the next one lies, and the bits read. -/
structure Pending where
  /-- How many bytes are missing, less one. -/
  more : Nat
  /-- The least byte that continues the character. -/
  low : UInt8
  /-- The greatest byte that continues the character. -/
  high : UInt8
  /-- The bits of the code point read so far. -/
  bits : Nat

/-- What one byte gives where no character is open: a character, an open character, or nothing that is well formed. -/
inductive Start where
  /-- The byte is a character. -/
  | char (c : Char)
  /-- The byte opens a character. -/
  | opened (p : Pending)
  /-- No character starts with the byte. -/
  | bad

/-- What a byte gives where no character is open. -/
def start (b : UInt8) : Start :=
  match lead? b with
  | none => .bad
  | some ⟨0, _, _, bits⟩ => .char (Char.ofNat bits)
  | some ⟨n + 1, low, high, bits⟩ => .opened ⟨n, low, high, bits⟩

/-- The character that stands for bytes that are not well formed. -/
def replacement : Char := Char.ofNat 0xFFFD

/-- The characters of bytes, with what is open before them; `bad` gives the character for an ill-formed part, or refuses. -/
def decodeFrom (bad : Option Char) (pending : Option Pending) : List UInt8 → Option (List Char)
  | [] =>
    match pending with
    | none => some []
    | some _ => bad.map ([·])
  | b :: rest =>
    let fresh (before : List Char) : Option (List Char) :=
      match start b with
      | .char c => (decodeFrom bad none rest).map (before ++ c :: ·)
      | .opened p => (decodeFrom bad (some p) rest).map (before ++ ·)
      | .bad =>
        match bad with
        | none => none
        | some r => (decodeFrom bad none rest).map (before ++ r :: ·)
    match pending with
    | none => fresh []
    | some p =>
      if p.low ≤ b && b ≤ p.high then
        let bits := p.bits * 64 + (b.toNat - 0x80)
        match p.more with
        | 0 => (decodeFrom bad none rest).map (Char.ofNat bits :: ·)
        | n + 1 => decodeFrom bad (some ⟨n, 0x80, 0xBF, bits⟩) rest
      else
        match bad with
        | none => none
        | some r => fresh [r]

/-- The text that well-formed bytes encode. -/
def decode? (bytes : List UInt8) : Option String :=
  (decodeFrom none none bytes).map String.ofList

/-- The text of any bytes, with U+FFFD for what is not well formed. -/
def decodeLossy (bytes : List UInt8) : String :=
  String.ofList ((decodeFrom (some replacement) none bytes).getD [])

/-- The bytes of a text. -/
def encode (s : String) : List UInt8 :=
  s.toUTF8.toList

end StagedLaunch.Utf8
