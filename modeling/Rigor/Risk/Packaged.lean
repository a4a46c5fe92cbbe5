import Rigor.Registry

/-!
# The packaged risk table

The patterns in force where no others are given.
-/

namespace Rigor.Risk

/-- One row of the table. -/
def packagedRow (category : String) (level : Nat) (risk : String) (keywords : List String) : Json :=
  .obj [("category", .str category), ("level", .int level), ("risk", .str risk),
    ("keywords", .arr (keywords.map .str))]

/-- The packaged definition file. -/
def packaged : DefinitionFile :=
  .data (.obj [("patterns", .arr [
    packagedRow "financial" 5 "Financial calculations require exhaustive testing"
      ["payment", "transaction", "billing", "invoice", "charge", "money", "currency"],
    packagedRow "security" 4 "Security-sensitive code needs integration verification"
      ["auth", "password", "token", "permission", "encrypt", "credential", "signature"],
    packagedRow "data_integrity" 4 "Data persistence needs consistency verification"
      ["database", "persist", "save", "insert", "update", "delete", "migrate"],
    packagedRow "user_facing" 2 "Public entry points need boundary validation"
      ["api", "endpoint", "route", "handler", "controller", "webhook"],
    packagedRow "distributed" 5 "Concurrent operations need race condition testing"
      ["queue", "event", "parallel", "concurrent", "lock", "promise.all", "asyncio.gather"]])])

end Rigor.Risk
