import Rigor.Text.DecompositionTable

/-!
# Compatibility decomposition

Two texts can look alike, or differ in a way that carries no meaning, and yet have different
characters: a letter of full width, a ligature, a letter with its accent apart. `decompose` brings
the characters of names into the form in which such texts agree: every character is taken apart into
its plainest parts, and marks that follow each other are put in the order of their combining
classes.
-/

namespace Rigor.Text

/-- The parts of a Hangul syllable, given its place among the syllables: the leading consonant, the
vowel, and the trailing consonant if there is one. -/
def syllableParts (place : Nat) : List Nat :=
  let vowels := 21
  let trailing := 28
  let consonant := 0x1100 + place / (vowels * trailing)
  let vowel := 0x1161 + place % (vowels * trailing) / trailing
  if place % trailing = 0 then [consonant, vowel]
  else [consonant, vowel, 0x11a7 + place % trailing]

/-- What the character of a code point is taken apart into, by the rows of the table. -/
def rowParts? (code : Nat) : Option (List Nat) :=
  decompositionRows.findSome? fun (first, images) =>
    if first ≤ code then images[code - first]? else none

/-- The code points that the character of a code point is taken apart into. -/
def partsOfCode (code : Nat) : List Nat :=
  if 0xac00 ≤ code ∧ code ≤ 0xd7a3 then syllableParts (code - 0xac00)
  else (rowParts? code).getD [CodeRun.applyFirst decompositionRuns code]

/-- The characters that a character is taken apart into. -/
def partsOfChar (c : Char) : List Char :=
  if c.toNat < 0x80 then [c] else (partsOfCode c.toNat).map Char.ofNat

/-- The combining class of a character; zero for all that are no marks. -/
def markClass (c : Char) : Nat :=
  if c.toNat < 0x80 then 0
  else (markClasses.findSome? fun (rank, marks) => if marks.has c then some rank else none).getD 0

/-- A character put in its place at the end of a text, which is held backwards: a mark goes before
the marks of higher classes that the text ends with. -/
def putMark (c : Char) : List Char → List Char
  | [] => [c]
  | d :: before =>
    if 0 < markClass c ∧ markClass c < markClass d then d :: putMark c before else c :: d :: before

/-- The text with neighbouring marks in the order of their classes. -/
def orderMarks (cs : List Char) : List Char :=
  (cs.foldl (fun held c => putMark c held) []).reverse

/-- The compatibility decomposition of the characters of a name. -/
def decompose (cs : List Char) : List Char :=
  if cs.all (·.toNat < 0x80) then cs else orderMarks (cs.flatMap partsOfChar)

end Rigor.Text
