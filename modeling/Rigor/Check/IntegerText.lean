import Rigor.Json.Numeral
import Rigor.Text.Blank
import Rigor.Text.Digit

/-!
# Integers written as text

A text spells an integer in decimal digits, with a sign and white space around it if need be. It may
group its digits by single underscores, start with zeros and end in a fraction of zeros: `+1_000.00`
is one thousand. `tidy?` brings such a text into the plain form that `plainInteger?` reads.

Zeros in front may hold underscores in any number, and a minus sign may stand after them: `0__7` is
seven and `0-7` is minus seven. A text of more than `maxLength` digits spells nothing; `isOverlong`
tells those that are so long from their first digit on.
-/

namespace Rigor.Check.IntegerText

open Json.Numeral (readDigits value)

/-- The most digits that an integer may have. -/
def maxLength : Nat := 4300

/-- The number that at most `maxLength` digits spell, the first of which is a zero only if it is the
last. -/
def plainNatural? (cs : List Char) : Option Nat :=
  if maxLength < cs.length then none
  else
    match readDigits cs with
    | (⟨0, _⟩ :: _ :: _, _) => none
    | (d :: ds, []) => some (value (d :: ds))
    | _ => none

/-- The integer that digits with or without a minus sign spell. -/
def plainInteger? : List Char → Option Int
  | '-' :: ds => (plainNatural? ds).map fun n => -(n : Int)
  | ds => (plainNatural? ds).map Int.ofNat

/-- What follows the zeros and underscores at the head of a text that started with a zero. The last
of these, `held`, is kept if nothing or a fraction follows. -/
def afterZeros (held : Char) : List Char → Option (List Char)
  | [] => some [held]
  | '0' :: rest => afterZeros '0' rest
  | '_' :: rest => afterZeros '_' rest
  | '.' :: rest => some (held :: '.' :: rest)
  | c :: rest => if Text.isAsciiDigit c || c == '-' then some (c :: rest) else none

/-- A text that starts with a digit, without the zeros in front. -/
def dropZeros? : List Char → Option (List Char)
  | [] => none
  | '0' :: rest => afterZeros '0' rest
  | c :: rest => if Text.isAsciiDigit c then some (c :: rest) else none

/-- The text without its fraction, if that has a digit and no other digit than zero. -/
def dropZeroFraction (cs : List Char) : List Char :=
  match cs.dropWhile (· != '.') with
  | '.' :: '0' :: zeros => if zeros.all (· == '0') then cs.takeWhile (· != '.') else cs
  | _ => cs

/-- Two underscores stand side by side. -/
def hasDoubleUnderscore : List Char → Bool
  | '_' :: '_' :: _ => true
  | _ :: rest => hasDoubleUnderscore rest
  | [] => false

/-- The text without its underscores, if each stands alone between two other characters. -/
def ungroup? (cs : List Char) : Option (List Char) :=
  if cs.head? = some '_' ∨ cs.getLast? = some '_' ∨ hasDoubleUnderscore cs then none
  else some (cs.filter (· != '_'))

/-- The plain form of a text without a sign in front. -/
def tidyUnsigned? (cs : List Char) : Option (List Char) :=
  (dropZeros? cs).bind fun rest => ungroup? (dropZeroFraction rest)

/-- The plain form of a text. -/
def tidy? (cs : List Char) : Option (List Char) :=
  match Text.trim Text.isWhiteSpace cs with
  | '-' :: rest => (tidyUnsigned? rest).map ('-' :: ·)
  | '+' :: rest => tidyUnsigned? rest
  | rest => tidyUnsigned? rest

/-- The integer that a text spells. -/
def read? (cs : List Char) : Option Int :=
  (tidy? cs).bind plainInteger?

/-- The text starts with more digits than an integer may have, the first of which is no zero. There
may be a minus sign before them. -/
def isOverlong (cs : List Char) : Bool :=
  let digits := (if cs.head? = some '-' then cs.tail else cs).takeWhile Text.isAsciiDigit
  digits.head? != some '0' && maxLength < digits.length

end Rigor.Check.IntegerText
