import Rigor.Check.Scalar
import Rigor.Fault

/-!
# Risk categories

The topics whose presence in a source text raises the level it is recommended.
-/

namespace Rigor.Risk

/-- A topic of risk. -/
inductive Category where
  | financial
  | security
  | dataIntegrity
  | userFacing
  | distributed
  deriving DecidableEq, Repr, Inhabited

namespace Category

/-- Every category. -/
def all : List Category :=
  [.financial, .security, .dataIntegrity, .userFacing, .distributed]

/-- The name of a category. -/
def name : Category → String
  | .financial => "financial"
  | .security => "security"
  | .dataIntegrity => "data_integrity"
  | .userFacing => "user_facing"
  | .distributed => "distributed"

/-- The category of a name. -/
def ofName? (s : String) : Option Category :=
  all.find? (·.name == s)

/-- A category by its name. -/
def read : Json → Checked Category :=
  Check.named ofName?

/-- The name of a category as JSON. -/
def toJson (category : Category) : Json :=
  .str category.name

/-- The category that a value names. -/
def find (value : Json) : Except Fault Category :=
  match read value with
  | .ok category => .ok category
  | .issues _ => .error (.notListed value .category)

end Category

end Rigor.Risk
