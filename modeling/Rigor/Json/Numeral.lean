import Rigor.Json.Basic

/-!
# Number tokens

A `Numeral` is a number as it is written in JSON: a sign, whole digits, and possibly a fraction and
an exponent. One with neither of the last two is an integer of any size; any other is the
floating-point number nearest to the value written (`decode`).
-/

namespace Rigor.Json

/-- A decimal digit. -/
abbrev Digit := Fin 10

/-- A number as written. -/
structure Numeral where
  /-- A minus sign stands in front. -/
  negative : Bool
  /-- The digits before the point. -/
  whole : List Digit
  /-- The digits after the point, if there is one. -/
  fraction : Option (List Digit)
  /-- The power of ten by which the number is multiplied, if one is written. -/
  exponent : Option Int
  deriving DecidableEq

namespace Numeral

/-- The number that digits denote, the most significant digit first. -/
def value (digits : List Digit) : Nat :=
  digits.foldl (fun n d => 10 * n + d.val) 0

/-- All digits before and after the point. -/
def digits (token : Numeral) : List Digit :=
  token.whole ++ token.fraction.getD []

/-- The power of ten that the last digit counts. -/
def scale (token : Numeral) : Int :=
  token.exponent.getD 0 - (token.fraction.getD []).length

/-- The number that a token denotes. -/
def decode (token : Numeral) : Json :=
  if token.fraction.isNone ∧ token.exponent.isNone then
    .int (if token.negative then -(value token.whole : Int) else value token.whole)
  else
    .float (Binary64.ofDecimal token.negative (value token.digits) token.digits.length token.scale)

/-- The digit that a character is. -/
def digit? (c : Char) : Option Digit :=
  if h : '0'.toNat ≤ c.toNat ∧ c.toNat - '0'.toNat < 10 then some ⟨c.toNat - '0'.toNat, h.2⟩
  else none

/-- The digits at the head of a text, and the rest. -/
def readDigits : List Char → List Digit × List Char
  | [] => ([], [])
  | c :: rest =>
    match digit? c with
    | some d => (d :: (readDigits rest).1, (readDigits rest).2)
    | none => ([], c :: rest)

/-- A point and at least one digit. -/
def readFraction : List Char → Option (List Digit) × List Char
  | '.' :: rest =>
    match readDigits rest with
    | ([], _) => (none, '.' :: rest)
    | (ds, rest) => (some ds, rest)
  | rest => (none, rest)

/-- An optional sign and at least one digit. -/
def readSigned : List Char → Option (Int × List Char)
  | '-' :: rest =>
    match readDigits rest with
    | ([], _) => none
    | (ds, rest) => some (-(value ds : Int), rest)
  | '+' :: rest =>
    match readDigits rest with
    | ([], _) => none
    | (ds, rest) => some (value ds, rest)
  | rest =>
    match readDigits rest with
    | ([], _) => none
    | (ds, rest) => some (value ds, rest)

/-- The letter `e` and a signed exponent. -/
def readExponent : List Char → Option Int × List Char
  | 'e' :: rest =>
    match readSigned rest with
    | some (e, rest) => (some e, rest)
    | none => (none, 'e' :: rest)
  | 'E' :: rest =>
    match readSigned rest with
    | some (e, rest) => (some e, rest)
    | none => (none, 'E' :: rest)
  | rest => (none, rest)

/-- A token without its sign; the whole digits start with a zero only if that is all of them. -/
def readUnsigned (negative : Bool) (cs : List Char) : Option (Numeral × List Char) :=
  match readDigits cs with
  | ([], _) => none
  | (⟨0, _⟩ :: _ :: _, _) => none
  | (whole, rest) =>
    let (fraction, rest) := readFraction rest
    let (exponent, rest) := readExponent rest
    some (⟨negative, whole, fraction, exponent⟩, rest)

/-- The token at the head of a text, and the rest. -/
def read : List Char → Option (Numeral × List Char)
  | '-' :: rest => readUnsigned true rest
  | rest => readUnsigned false rest

end Numeral

end Rigor.Json
