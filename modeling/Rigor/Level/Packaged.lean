import Rigor.Registry

/-!
# The packaged catalog of levels

The definitions in force where no others are given.
-/

namespace Rigor.Level

/-- One row of the catalog. -/
def packagedRow (rank : Nat) (name description : String) (tools : List String) : Json :=
  .obj [("level", .int rank), ("name", .str name), ("description", .str description),
    ("tools", .arr (tools.map .str))]

/-- The packaged definition file. -/
def packaged : DefinitionFile :=
  .data (.obj [("levels", .arr [
    packagedRow 1 "Static Types"
      "Static types catch compile-time errors but miss runtime behavior"
      ["TypeScript", "mypy", "Flow"],
    packagedRow 2 "Runtime Validation"
      "Runtime validation catches malformed input at system boundaries"
      ["Zod", "pydantic", "io-ts", "Joi", "Yup"],
    packagedRow 3 "Unit Tests"
      "Unit tests verify isolated function logic and edge cases"
      ["Jest", "Vitest", "pytest", "Mocha"],
    packagedRow 4 "Integration Tests"
      "Integration tests verify component interactions end-to-end"
      ["Playwright", "Cypress", "Supertest"],
    packagedRow 5 "Property-Based Tests"
      "Property tests generate thousands of inputs to find edge cases"
      ["fast-check", "Hypothesis", "QuickCheck"],
    packagedRow 6 "Formal Verification"
      "Formal verification mathematically proves correctness"
      ["TLA+", "Z3", "Coq", "Alloy"]])])

end Rigor.Level
