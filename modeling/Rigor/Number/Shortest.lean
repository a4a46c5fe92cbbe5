import Rigor.Number.Binary64
import Rigor.Text.Decimal

/-!
# Shortest decimals

The decimal text of a floating-point number has the fewest digits that read back as that number, and
of these the digits nearest to it. `shortest` finds them on exact integers: for one, two, three ...
digits it tests the two neighbours of the number on the decimal grid of that length. `Binary64.text`
lays the digits out: positionally while the point stands at most 16 digits right and three zeros
left of the first digit, otherwise with an exponent of two digits or more.
-/

namespace Rigor.Binary64

/-- The digits `significand` and the place of the point: the value is
`0.significand * 10^point`. -/
structure Digits where
  /-- The digits, read as one number. -/
  significand : Nat
  /-- How many digits stand left of the point, zeros left of all digits counting negatively. -/
  point : Int

/-- `units` against `a * 10^p`, both scaled to integers: the left and the right side. -/
def scaled (quarters a : Nat) (p : Int) : Nat × Nat :=
  if 0 ≤ p then (quarters, a * Nat.pow 10 p.toNat * (4 * one))
  else (quarters * Nat.pow 10 (-p).toNat, a * (4 * one))

/-- Whether `a * 10^p` lies in the interval of the reals that round to `units`; its ends belong to
it if the significand is even. The interval is half as wide below a power of two. -/
def readsBack (units a : Nat) (p : Int) : Bool :=
  let k := spacing units
  let gap := Nat.pow 2 k
  let even := (units / gap) % 2 = 0
  let narrow := units = Nat.pow 2 (52 + k) ∧ 0 < k
  let lower := scaled (4 * units - (if narrow then gap else 2 * gap)) a p
  let upper := scaled (4 * units + 2 * gap) a p
  if even then lower.1 ≤ lower.2 && upper.2 ≤ upper.1 else lower.1 < lower.2 && upper.2 < upper.1

/-- The least `e` with `units < 10^e`, in units of one, found from the least exponent upwards. -/
def magnitude (units : Nat) : Int :=
  let below (e : Int) : Bool :=
    if 0 ≤ e then units < Nat.pow 10 e.toNat * one else units * Nat.pow 10 (-e).toNat < one
  (((List.range 640).map fun (i : Nat) => (i : Int) - 325).find? below).getD 310

/-- The digits of length `n` that read back, the nearer of two and the even one of a tie. -/
def digitsOfLength? (units : Nat) (e : Int) (n : Nat) : Option Nat :=
  let p := e - n
  let (left, right) := scaled (4 * units) 1 p
  let a := left / right
  match readsBack units a p, readsBack units (a + 1) p with
  | true, false => some a
  | false, true => some (a + 1)
  | false, false => none
  | true, true =>
    let r := left % right
    if 2 * r < right ∨ (2 * r = right ∧ a % 2 = 0) then some a else some (a + 1)

/-- The shortest digits of a positive number of `units`. -/
def shortest (units : Nat) : Digits :=
  let e := magnitude units
  match (List.range 17).findSome? fun i =>
      (digitsOfLength? units e (i + 1)).map fun a => (a, i + 1) with
  | some (a, n) =>
    let count := (Text.natDigits a).length
    ⟨a, e + count - n⟩
  | none => ⟨units, e⟩

/-- The digits without the zeros at their end. -/
def significantDigits (n : Nat) : List Char :=
  ((Text.natDigits n).reverse.dropWhile (· == '0')).reverse

/-- A signed exponent of at least two digits. -/
def exponentText (e : Int) : List Char :=
  let digits := Text.natDigits e.natAbs
  (if e < 0 then '-' else '+') :: (if digits.length < 2 then '0' :: digits else digits)

/-- Digits laid out around the decimal point. -/
def layout (digits : List Char) (point : Int) : List Char :=
  if -4 < point ∧ point ≤ 16 then
    if point ≤ 0 then
      '0' :: '.' :: List.replicate (-point).toNat '0' ++ digits
    else if point < digits.length then
      digits.take point.toNat ++ '.' :: digits.drop point.toNat
    else
      digits ++ List.replicate (point.toNat - digits.length) '0' ++ ['.', '0']
  else
    match digits with
    | [] => []
    | first :: rest =>
      first :: (if rest.isEmpty then [] else '.' :: rest) ++ 'e' :: exponentText (point - 1)

/-- The decimal text of a floating-point number. -/
def text : Binary64 → String
  | .undefined => "nan"
  | .infinite negative => if negative then "-inf" else "inf"
  | .finite negative units =>
    let body :=
      if units = 0 then ['0', '.', '0']
      else
        let found := shortest units
        layout (significantDigits found.significand) found.point
    String.ofList (if negative then '-' :: body else body)

end Rigor.Binary64
