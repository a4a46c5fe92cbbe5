/-!
# Binary floating-point numbers of 64 bits

A finite number is a whole count of *units* of 2^(-1074), the least positive number of the format,
and a sign. The counts in use are those with at most 53 significant bits below 2^2098. `ofRatio`
rounds an exact non-negative fraction to the nearest of them, ties to the even neighbour, and goes
to infinity from 2^1024 - 2^970 on. `position` places a number among the integers and the
infinities, which makes comparison exact.
-/

namespace Rigor

/-- A floating-point number. -/
inductive Binary64 where
  /-- `units` times 2^(-1074), negated if `negative`; zero has both signs. -/
  | finite (negative : Bool) (units : Nat)
  /-- Infinity, of either sign. -/
  | infinite (negative : Bool)
  /-- The result that is no number. -/
  | undefined
  deriving Repr, DecidableEq, Inhabited

namespace Binary64

/-- The number of units in one. -/
def one : Nat := Nat.pow 2 1074

/-- The number of units in 2^1024, where the format ends. -/
def limit : Nat := Nat.pow 2 2098

/-- The whole number nearest to `num / den`, ties going to the even one. -/
def roundHalfEven (num den : Nat) : Nat :=
  let q := num / den
  let r := num % den
  if 2 * r < den ∨ (2 * r = den ∧ q % 2 = 0) then q else q + 1

/-- Neighbours of a number of `units` are two to this power units apart: 53 bits are kept. -/
def spacing (units : Nat) : Nat :=
  units.log2 - 52

/-- The count of units with 53 significant bits nearest to `num / den`. -/
def roundUnits (num den : Nat) : Nat :=
  let gap := Nat.pow 2 (spacing (num * one / den))
  roundHalfEven (num * one) (den * gap) * gap

/-- The number nearest to `num / den`, negated if `negative`. -/
def ofRatio (negative : Bool) (num den : Nat) : Binary64 :=
  let units := roundUnits num den
  if units < limit then .finite negative units else .infinite negative

/-- The number nearest to `significand * 10^exponent`, where `significand < 10^width`. The two
bounds on the exponent only spare the computation of huge powers: beyond them the value exceeds the
largest finite number, or stays below half a unit. -/
def ofDecimal (negative : Bool) (significand width : Nat) (exponent : Int) : Binary64 :=
  if significand = 0 then .finite negative 0
  else if 309 ≤ exponent then .infinite negative
  else if exponent + width ≤ -324 then .finite negative 0
  else if 0 ≤ exponent then ofRatio negative (significand * Nat.pow 10 exponent.toNat) 1
  else ofRatio negative significand (Nat.pow 10 (-exponent).toNat)

/-- Neither infinite nor undefined. -/
def isFinite : Binary64 → Bool
  | .finite _ _ => true
  | .infinite _ => false
  | .undefined => false

/-- A finite number without a fractional part. -/
def isIntegral : Binary64 → Bool
  | .finite _ units => units % one == 0
  | .infinite _ => false
  | .undefined => false

/-- The integer that an integral number is. -/
def toInt? : Binary64 → Option Int
  | .finite negative units =>
    if units % one = 0 then
      some (if negative then -(units / one : Nat) else (units / one : Nat))
    else
      none
  | .infinite _ => none
  | .undefined => none

end Binary64

/-- A place on the number line, its two ends included; the undefined number has none of these. -/
inductive Position where
  /-- Below every finite number. -/
  | below
  /-- At `units` times 2^(-1074). -/
  | at (units : Int)
  /-- Above every finite number. -/
  | above
  /-- Not on the line: neither less than, equal to nor greater than anything. -/
  | nowhere
  deriving DecidableEq

namespace Position

/-- The place of an integer. -/
def ofInt (n : Int) : Position :=
  .at (n * Binary64.one)

/-- The place of a floating-point number. -/
def ofBinary64 : Binary64 → Position
  | .finite negative units => .at (if negative then -units else units)
  | .infinite negative => if negative then .below else .above
  | .undefined => .nowhere

/-- Strictly left of. -/
def lt : Position → Position → Bool
  | .at a, .at b => a < b
  | .below, .at _ => true
  | .below, .above => true
  | .at _, .above => true
  | _, _ => false

/-- At the same place. -/
def same : Position → Position → Bool
  | .at a, .at b => a == b
  | .below, .below => true
  | .above, .above => true
  | _, _ => false

/-- Left of, or at the same place. -/
def le (p q : Position) : Bool :=
  p.lt q || p.same q

end Position

end Rigor
