/-!
# Code point ranges

A property of characters is given as the inclusive ranges of code points that have it. A character
has the property exactly when one of the ranges holds its code point (`has_iff`).
-/

namespace Rigor.Text

/-- Inclusive ranges of code points. -/
abbrev CodeRanges := List (Nat × Nat)

namespace CodeRanges

/-- Some range of `ranges` holds the code point of `c`. -/
def has (ranges : CodeRanges) (c : Char) : Bool :=
  ranges.any fun r => r.1 ≤ c.toNat && c.toNat ≤ r.2

/-- Ranges have a character just if one of them does. -/
theorem has_iff {ranges : CodeRanges} {c : Char} :
    ranges.has c = true ↔ ∃ r ∈ ranges, r.1 ≤ c.toNat ∧ c.toNat ≤ r.2 := by
  simp [has]

end CodeRanges

end Rigor.Text
