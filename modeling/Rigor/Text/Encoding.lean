import Rigor.Text.Units

/-!
# Encodings of JSON

A JSON text begins with two ASCII characters, so that the zero bytes among its first four tell
whether a character takes one, two or four bytes, and in which order (`Encoding.detect`). `decode`
reads the bytes of the wide encodings; it fails for a part of a character that is left over at the
end, and for code points that do not exist.
-/

namespace Rigor.Text

/-- The order of the bytes of a number. -/
inductive ByteOrder where
  /-- The most significant byte comes first. -/
  | big
  /-- The least significant byte comes first. -/
  | little
  deriving DecidableEq, Repr

/-- How the characters of a text are written in bytes. -/
inductive Encoding where
  /-- In one byte or more. -/
  | narrow
  /-- In units of two bytes. -/
  | wide (order : ByteOrder)
  /-- In four bytes. -/
  | full (order : ByteOrder)
  deriving DecidableEq, Repr

/-- The number that bytes denote, the most significant byte first. -/
def numberOfBytes (bytes : List Nat) : Nat :=
  bytes.foldl (fun n b => n * 256 + b) 0

/-- The number that bytes in the given order denote. -/
def ByteOrder.number : ByteOrder → List Nat → Nat
  | .big, bytes => numberOfBytes bytes
  | .little, bytes => numberOfBytes bytes.reverse

namespace Encoding

/-- The encoding that the zero bytes at the head of a text tell. -/
def detect : List Nat → Encoding
  | a :: b :: c :: d :: _ =>
    if a = 0 then (if b = 0 then .full .big else .wide .big)
    else if b = 0 then (if c = 0 ∧ d = 0 then .full .little else .wide .little)
    else .narrow
  | [a, b] => if a = 0 then .wide .big else if b = 0 then .wide .little else .narrow
  | _ => .narrow

/-- The numbers of two bytes each that bytes make up, none being left over. -/
def pairs? (order : ByteOrder) : List Nat → Option (List Nat)
  | [] => some []
  | a :: b :: rest => (pairs? order rest).map (order.number [a, b] :: ·)
  | _ => none

/-- The numbers of four bytes each that bytes make up, none being left over. -/
def quads? (order : ByteOrder) : List Nat → Option (List Nat)
  | [] => some []
  | a :: b :: c :: d :: rest => (quads? order rest).map (order.number [a, b, c, d] :: ·)
  | _ => none

/-- The characters of bytes in a wide encoding; the narrow one has no reading here. -/
def decode? : Encoding → List Nat → Option (List Char)
  | .narrow, _ => none
  | .wide order, bytes => (pairs? order bytes).map charsOfUnits
  | .full order, bytes =>
    (quads? order bytes).bind fun codes =>
      if codes.all (· < 0x110000) then some (codes.map charOfCode) else none

end Encoding

end Rigor.Text
