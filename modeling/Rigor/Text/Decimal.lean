/-!
# Integers in decimal

An integer is written in decimal digits without leading zeros, after a minus sign if it is negative.
-/

namespace Rigor.Text

/-- The decimal digits of a natural number. -/
def natDigits (n : Nat) : List Char :=
  Nat.toDigits 10 n

/-- The decimal text of an integer. -/
def decimal : Int → String
  | .ofNat n => String.ofList (natDigits n)
  | .negSucc n => String.ofList ('-' :: natDigits (n + 1))

end Rigor.Text
