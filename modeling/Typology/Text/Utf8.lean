/-!
Characters as UTF-8 bytes, and reading bytes that may be malformed: each maximal beginning of a
character that does not go on as it should becomes one replacement character.
-/

namespace Typology.Text

/-- The UTF-8 bytes of a text. -/
def encodeUtf8 (text : List Char) : List UInt8 := text.flatMap String.utf8EncodeChar

/-- What stands for bytes that are no character. -/
def replacement : Char := Char.ofNat 0xFFFD

/-- A character whose first bytes have been read. -/
structure Partial where
  /-- How many bytes are missing. -/
  missing : Nat
  /-- The least and the greatest byte that may come next. -/
  low : UInt8
  high : UInt8
  /-- The bits read so far. -/
  bits : Nat

/-- What a byte in first position begins. -/
inductive FirstByte where
  | whole (c : Char)
  | part (p : Partial)
  | stray

/-- Classifies a byte in first position. -/
def FirstByte.ofByte (b : UInt8) : FirstByte :=
  let n := b.toNat
  if n < 0x80 then .whole (Char.ofNat n)
  else if n < 0xC2 then .stray
  else if n < 0xE0 then .part ⟨1, 0x80, 0xBF, n - 0xC0⟩
  else if n < 0xF0 then
    .part ⟨2, if n = 0xE0 then 0xA0 else 0x80, if n = 0xED then 0x9F else 0xBF, n - 0xE0⟩
  else if n < 0xF5 then
    .part ⟨3, if n = 0xF0 then 0x90 else 0x80, if n = 0xF4 then 0x8F else 0xBF, n - 0xF0⟩
  else .stray

/-- Reads bytes, given the character that they are in the middle of. -/
def decodeFrom : Option Partial → List UInt8 → List Char
  | none, [] => []
  | some _, [] => [replacement]
  | some p, b :: rest =>
    if p.low ≤ b ∧ b ≤ p.high then
      let bits := p.bits * 64 + (b.toNat - 0x80)
      if p.missing ≤ 1 then Char.ofNat bits :: decodeFrom none rest
      else decodeFrom (some ⟨p.missing - 1, 0x80, 0xBF, bits⟩) rest
    else
      replacement :: match FirstByte.ofByte b with
        | .whole c => c :: decodeFrom none rest
        | .part p => decodeFrom (some p) rest
        | .stray => replacement :: decodeFrom none rest
  | none, b :: rest =>
    match FirstByte.ofByte b with
    | .whole c => c :: decodeFrom none rest
    | .part p => decodeFrom (some p) rest
    | .stray => replacement :: decodeFrom none rest

/-- Reads bytes as UTF-8, with replacement characters for what is malformed. -/
def decodeUtf8 (bytes : List UInt8) : List Char := decodeFrom none bytes

end Typology.Text
