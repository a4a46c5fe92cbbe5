import Rigor.Text.Ranges

/-!
# Blank characters

Two sets of blank characters are in use. `isBlank` is the wide one, which the string formats and the
keywords of the risk table go by; `isWhiteSpace` is the standard's property of that name, which
numbers written as text may be surrounded by. They differ in the four separators U+001C to U+001F.
`trim` drops the characters of a set from both ends of a text.
-/

namespace Rigor.Text

/-- The characters of the standard's property `White_Space`. -/
def whiteSpace : CodeRanges :=
  [(0x9, 0xd), (0x20, 0x20), (0x85, 0x85), (0xa0, 0xa0), (0x1680, 0x1680), (0x2000, 0x200a),
   (0x2028, 0x2029), (0x202f, 0x202f), (0x205f, 0x205f), (0x3000, 0x3000)]

/-- The four information separators, which are blank without being white space. -/
def informationSeparators : CodeRanges := [(0x1c, 0x1f)]

/-- A character of the standard's property `White_Space`. -/
def isWhiteSpace (c : Char) : Bool :=
  whiteSpace.has c

/-- White space or an information separator. -/
def isBlank (c : Char) : Bool :=
  whiteSpace.has c || informationSeparators.has c

/-- A character that is not blank is outside every range of blanks. -/
theorem isBlank_eq_false_iff {c : Char} :
    isBlank c = false ↔
      ∀ r ∈ whiteSpace ++ informationSeparators, c.toNat < r.1 ∨ r.2 < c.toNat := by
  have houtside : isBlank c = true ↔
      ∃ r ∈ whiteSpace ++ informationSeparators, r.1 ≤ c.toNat ∧ c.toNat ≤ r.2 := by
    rw [← CodeRanges.has_iff, isBlank, CodeRanges.has, CodeRanges.has, CodeRanges.has,
      List.any_append]
  rw [← Bool.not_eq_true, houtside]
  constructor
  · intro hnone r hr
    rcases Nat.lt_or_ge c.toNat r.1 with hbelow | hfirst
    · exact Or.inl hbelow
    · exact Or.inr (Nat.lt_of_not_le fun hlast => hnone ⟨r, hr, hfirst, hlast⟩)
  · rintro hall ⟨r, hr, hfirst, hlast⟩
    have := hall r hr
    omega

/-- `cs` without the characters satisfying `p` at its two ends. -/
def trim (p : Char → Bool) (cs : List Char) : List Char :=
  ((cs.dropWhile p).reverse.dropWhile p).reverse

/-- `cs` without the blanks at its two ends. -/
def strip (cs : List Char) : List Char :=
  trim isBlank cs

end Rigor.Text
