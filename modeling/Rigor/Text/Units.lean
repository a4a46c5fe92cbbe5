/-!
# Text from code units of 16 bits

A character beyond U+FFFF is a pair of units, a high surrogate and a low one. `charsOfUnits` joins
such pairs; a surrogate without its partner is no character and is replaced.
-/

namespace Rigor.Text

/-- The unit opens a pair. -/
def isHighSurrogate (unit : Nat) : Bool :=
  0xd800 ≤ unit && unit < 0xdc00

/-- The unit closes a pair. -/
def isLowSurrogate (unit : Nat) : Bool :=
  0xdc00 ≤ unit && unit < 0xe000

/-- The character of a code point; a surrogate becomes the replacement character. -/
def charOfCode (code : Nat) : Char :=
  if isHighSurrogate code || isLowSurrogate code then '\ufffd' else Char.ofNat code

/-- The characters of units. A unit may also be a whole code point beyond U+FFFF. -/
def charsOfUnits : List Nat → List Char
  | [] => []
  | [u] => [charOfCode u]
  | u :: v :: rest =>
    if isHighSurrogate u && isLowSurrogate v then
      Char.ofNat (0x10000 + (u - 0xd800) * 0x400 + (v - 0xdc00)) :: charsOfUnits rest
    else
      charOfCode u :: charsOfUnits (v :: rest)

end Rigor.Text
