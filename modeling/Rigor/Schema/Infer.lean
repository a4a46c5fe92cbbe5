import Rigor.Schema.Basic
import Rigor.Schema.Sample

/-!
# Inference

`infer` reads the schema off a sample. An array has the distinct schemas of its items: none of them
leaves the element unknown, one is the element, several are united in the order of their first
occurrence.
-/

namespace Rigor

namespace Schema

/-- One schema for values of all the given schemas. -/
def unite (schemas : List Schema) : Schema :=
  match distinct schemas with
  | [] => .unknown
  | [schema] => schema
  | variants => .union variants

end Schema

namespace Sample

open Schema (Format)

mutual

/-- The schema of a sample. -/
def infer : Sample → Schema
  | .null => .null
  | .undefined => .undefined
  | .bool _ => .boolean
  | .int _ => .number true
  | .float value => .number value.isIntegral
  | .str text => .string (Format.detect text)
  | .arr items => .array (Schema.unite (inferItems items))
  | .obj _ => .object
  | .foreign => .unknown

/-- The schemas of the items of an array. -/
def inferItems : List Sample → List Schema
  | [] => []
  | item :: rest => infer item :: inferItems rest

end

end Sample

end Rigor
