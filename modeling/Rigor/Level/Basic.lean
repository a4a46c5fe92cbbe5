import Rigor.Check.Scalar
import Rigor.Fault
import Rigor.Json.Order

/-!
# Levels

The six levels of rigor, in ascending order. A level is looked up by its rank, either among JSON
values that equal it as numbers (`Level.find`) or by the lax rule for integers (`Level.read`).
-/

namespace Rigor

/-- A level of rigor. -/
inductive Level where
  | staticTypes
  | runtimeValidation
  | unitTests
  | integrationTests
  | propertyBasedTests
  | formalVerification
  deriving DecidableEq, Repr, Inhabited

namespace Level

/-- The levels in ascending order. -/
def all : List Level :=
  [.staticTypes, .runtimeValidation, .unitTests, .integrationTests, .propertyBasedTests,
    .formalVerification]

/-- The rank of a level, from one to six. -/
def rank : Level → Nat
  | .staticTypes => 1
  | .runtimeValidation => 2
  | .unitTests => 3
  | .integrationTests => 4
  | .propertyBasedTests => 5
  | .formalVerification => 6

/-- The name of a level as a constant. -/
def name : Level → String
  | .staticTypes => "STATIC_TYPES"
  | .runtimeValidation => "RUNTIME_VALIDATION"
  | .unitTests => "UNIT_TESTS"
  | .integrationTests => "INTEGRATION_TESTS"
  | .propertyBasedTests => "PROPERTY_BASED_TESTS"
  | .formalVerification => "FORMAL_VERIFICATION"

/-- The name of a level for readers. -/
def label : Level → String
  | .staticTypes => "Static Types"
  | .runtimeValidation => "Runtime Validation"
  | .unitTests => "Unit Tests"
  | .integrationTests => "Integration Tests"
  | .propertyBasedTests => "Property Based Tests"
  | .formalVerification => "Formal Verification"

/-- The order of rigor. -/
def le (a b : Level) : Bool :=
  a.rank ≤ b.rank

/-- The more rigorous of two levels. -/
def max (a b : Level) : Level :=
  if a.rank < b.rank then b else a

/-- The most rigorous of some levels, static types if there are none. -/
def highest (levels : List Level) : Level :=
  levels.foldl max .staticTypes

/-- The level of a rank. -/
def ofRank? (n : Int) : Option Level :=
  all.find? fun level => (level.rank : Int) == n

/-- The rank of a level as JSON. -/
def toJson (level : Level) : Json :=
  .int level.rank

/-- The level that equals a value as a number. -/
def find (value : Json) : Except Fault Level :=
  match all.find? fun level => value.same level.toJson with
  | some level => .ok level
  | none => .error (.notListed value .level)

/-- The level of a rank; an integer beyond 64 bits is rejected for its size. -/
def ofInteger (n : Int) : Except Check.IssueKind Level :=
  match ofRank? n with
  | some level => .ok level
  | none => .error (if Check.isWord n then .notListed else .integerSize)

/-- A level by its rank, under the lax rule for integers. -/
def read (value : Json) : Checked Level :=
  match Check.integer value with
  | .ok n => .ofVerdict value (ofInteger n)
  | .issues _ => .fail .notListed value

end Level

end Rigor
