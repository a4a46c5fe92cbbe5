import Rigor.Check.Record
import Rigor.Check.Scalar
import Rigor.Schema.Basic

/-!
# Reading schemas

`Schema.read` reads a schema from an object that names its kind, the form that `Schema.toJson`
writes. The place of an issue inside a schema of a kind passes through the branch of that name.
-/

namespace Rigor.Schema

open Check

/-- A schema of the given kind without further members. -/
def ofPlainKind? : String → Option Schema
  | "null" => some .null
  | "undefined" => some .undefined
  | "unknown" => some .unknown
  | "boolean" => some .boolean
  | "object" => some .object
  | _ => none

mutual

/-- The schema that a value describes. -/
def read : Json → Checked Schema
  | .obj members =>
    match Table.get? members "kind" with
    | none => .fail .kindMissing (.obj members)
    | some (.str "string") =>
      (Schema.string <$> optional "format" (named Format.ofName?) .plain members).under
        (.branch "string")
    | some (.str "number") =>
      (Schema.number <$> required "is_integer" Check.boolean members).under (.branch "number")
    | some (.str "array") =>
      (Schema.array <$> orMissing "element" members (readElement? members)).under (.branch "array")
    | some (.str "union") =>
      (Schema.union <$> orMissing "variants" members (readVariants? members)).under
        (.branch "union")
    | some (.str kind) =>
      match ofPlainKind? kind with
      | some schema => .ok schema
      | none => .fail .kindUnknown (.obj members)
    | some _ => .fail .kindUnknown (.obj members)
  | value => .fail .notAttributes value

/-- The element of an array schema, if it is among the members. -/
def readElement? : List (String × Json) → Option (Checked Schema)
  | [] => none
  | (key, value) :: rest => if key = "element" then some (read value) else readElement? rest

/-- The variants of a union schema, if they are among the members. -/
def readVariants? : List (String × Json) → Option (Checked (List Schema))
  | [] => none
  | (key, value) :: rest => if key = "variants" then some (readTuple value) else readVariants? rest

/-- At least two schemas. -/
def readTuple : Json → Checked (List Schema)
  | .arr items => .collectAtLeast 2 (.arr items) (readAll items)
  | value => .fail .notTuple value

/-- The schemas that values describe. -/
def readAll : List Json → List (Checked Schema)
  | [] => []
  | value :: rest => read value :: readAll rest

end

end Rigor.Schema
