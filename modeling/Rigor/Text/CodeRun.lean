/-!
# Runs of code points

Mappings of the standard mostly shift many characters by one amount. A `CodeRun` maps every
`stride`-th code point from `first` to `last` by one shift.
-/

namespace Rigor.Text

/-- Code points `first`, `first + stride`, ..., `last`, shifted so that `first` goes to `image`. -/
structure CodeRun where
  /-- The least code point of the run. -/
  first : Nat
  /-- The greatest code point of the run. -/
  last : Nat
  /-- The distance of neighbours in the run. -/
  stride : Nat
  /-- The image of `first`. -/
  image : Nat

namespace CodeRun

/-- The image of a code point of the run. -/
def mapped? (run : CodeRun) (code : Nat) : Option Nat :=
  if run.first ≤ code ∧ code ≤ run.last ∧ (code - run.first) % run.stride = 0 then
    some (run.image + (code - run.first))
  else
    none

/-- The image under the first of `runs` that holds the code point, which else stays as it is. -/
def applyFirst (runs : List CodeRun) (code : Nat) : Nat :=
  (runs.findSome? (·.mapped? code)).getD code

/-- The run of a row of numbers. -/
def ofRow : Nat × Nat × Nat × Nat → CodeRun
  | (first, last, stride, image) => ⟨first, last, stride, image⟩

end CodeRun

end Rigor.Text
