import Rigor.Check.Record
import Rigor.Check.Scalar
import Rigor.Json.Finite

/-!
# Boundary patterns

A boundary pattern names a schema expression for a common boundary of a system, with a sample
payload that the expression fits.
-/

namespace Rigor.Boundary

open Check

/-- A schema expression that guards a common boundary. -/
structure Pattern where
  /-- What the pattern is looked up by. -/
  key : String
  /-- Its name for readers. -/
  name : String
  /-- Where the boundary shows up, in a sentence. -/
  description : String
  /-- The schema expression. -/
  expression : String
  /-- A payload, as the members of an object. -/
  sample : List (String × Json)

namespace Pattern

/-- A pattern, from an object. -/
def read (setting : Setting) : Json → Checked Pattern :=
  record setting fun members =>
    Pattern.mk <$> required "key" text members
      <*> required "name" text members
      <*> required "description" text members
      <*> required "schema_expression" text members
      <*> optional "sample" mapping [] members

/-- A pattern as an object; in the sample, null stands for numbers that are not finite. -/
def toJson (p : Pattern) : Json :=
  .obj [("key", .str p.key), ("name", .str p.name), ("description", .str p.description),
    ("schema_expression", .str p.expression), ("sample", (Json.obj p.sample).blankNonFinite)]

end Pattern

end Rigor.Boundary
