/-!
# Text from bytes

`decodeLossy` reads bytes as UTF-8. Bytes that are no character are replaced: each longest start of
a character that is not continued, and each byte that starts none, becomes one replacement
character.
-/

namespace Rigor.Text

/-- A character of which some bytes are still to come. -/
structure PartialChar where
  /-- How many bytes are to come, less one. -/
  more : Nat
  /-- The bits read so far. -/
  bits : Nat
  /-- The least byte that may come next. -/
  least : Nat
  /-- The greatest byte that may come next. -/
  greatest : Nat

/-- The replacement character. -/
def replacement : Char := '\ufffd'

/-- What the first byte of a character says: the whole character, or what is to come. -/
def firstByte (b : Nat) : Except Char PartialChar :=
  if b < 0x80 then .error (Char.ofNat b)
  else if b < 0xc2 then .error replacement
  else if b < 0xe0 then .ok ⟨0, b - 0xc0, 0x80, 0xbf⟩
  else if b = 0xe0 then .ok ⟨1, 0, 0xa0, 0xbf⟩
  else if b = 0xed then .ok ⟨1, 0xd, 0x80, 0x9f⟩
  else if b < 0xf0 then .ok ⟨1, b - 0xe0, 0x80, 0xbf⟩
  else if b = 0xf0 then .ok ⟨2, 0, 0x90, 0xbf⟩
  else if b < 0xf4 then .ok ⟨2, b - 0xf0, 0x80, 0xbf⟩
  else if b = 0xf4 then .ok ⟨2, 4, 0x80, 0x8f⟩
  else .error replacement

/-- The characters of bytes after a character of which some bytes are still to come, if there is
one. -/
def decodeAfter : Option PartialChar → List Nat → List Char
  | none, [] => []
  | some _, [] => [replacement]
  | pending, b :: rest =>
    match pending with
    | some p =>
      if p.least ≤ b ∧ b ≤ p.greatest then
        let bits := p.bits * 64 + (b - 0x80)
        match p.more with
        | 0 => Char.ofNat bits :: decodeAfter none rest
        | more + 1 => decodeAfter (some ⟨more, bits, 0x80, 0xbf⟩) rest
      else
        match firstByte b with
        | .error c => replacement :: c :: decodeAfter none rest
        | .ok q => replacement :: decodeAfter (some q) rest
    | none =>
      match firstByte b with
      | .error c => c :: decodeAfter none rest
      | .ok q => decodeAfter (some q) rest

/-- The characters of bytes. -/
def decodeLossy (bytes : List Nat) : List Char :=
  decodeAfter none bytes

/-- The bytes of a character. -/
def bytesOf (c : Char) : List Nat :=
  (String.utf8EncodeChar c).map UInt8.toNat

end Rigor.Text
