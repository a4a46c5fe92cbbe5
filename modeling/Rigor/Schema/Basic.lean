import Rigor.Json.Basic
import Rigor.Schema.Format

/-!
# Schemas

A schema describes the structure of a sample and, for a text, its format. Objects have no structure
here. `distinct` drops repetitions from a list and keeps the order of first occurrence; it is what
unions are built by.
-/

namespace Rigor

/-- The structure of a sample. -/
inductive Schema where
  | null
  /-- An absent value. -/
  | undefined
  /-- A value that could not be observed. -/
  | unknown
  | string (format : Schema.Format)
  | number (integral : Bool)
  | boolean
  | object
  | array (element : Schema)
  /-- Any of the variants. -/
  | union (variants : List Schema)
  deriving Inhabited

namespace Schema

mutual

/-- Equality of schemas. -/
def same : Schema → Schema → Bool
  | .null, .null => true
  | .undefined, .undefined => true
  | .unknown, .unknown => true
  | .string a, .string b => a == b
  | .number a, .number b => a == b
  | .boolean, .boolean => true
  | .object, .object => true
  | .array a, .array b => same a b
  | .union as, .union bs => sameVariants as bs
  | _, _ => false

/-- Equality variant by variant. -/
def sameVariants : List Schema → List Schema → Bool
  | [], [] => true
  | a :: as, b :: bs => same a b && sameVariants as bs
  | _, _ => false

end

mutual

/-- The test for equality of schemas is equality. -/
theorem same_iff : ∀ a b : Schema, same a b = true ↔ a = b
  | .null, b => by cases b <;> simp [same]
  | .undefined, b => by cases b <;> simp [same]
  | .unknown, b => by cases b <;> simp [same]
  | .string _, b => by cases b <;> simp [same]
  | .number _, b => by cases b <;> simp [same]
  | .boolean, b => by cases b <;> simp [same]
  | .object, b => by cases b <;> simp [same]
  | .array a, b => by
    cases b with
    | array b => simp [same, same_iff a b]
    | _ => simp [same]
  | .union as, b => by
    cases b with
    | union bs => simp [same, sameVariants_iff as bs]
    | _ => simp [same]

/-- So is the test for equality of variants. -/
theorem sameVariants_iff : ∀ as bs : List Schema, sameVariants as bs = true ↔ as = bs
  | [], bs => by cases bs <;> simp [sameVariants]
  | a :: as, bs => by
    cases bs with
    | nil => simp [sameVariants]
    | cons b bs => simp [sameVariants, same_iff a b, sameVariants_iff as bs]

end

instance : DecidableEq Schema :=
  fun a b => decidable_of_iff (same a b = true) (same_iff a b)

/-- The members of a list without repetitions, in the order of their first occurrence. -/
def distinct {α : Type} [DecidableEq α] (items : List α) : List α :=
  items.foldl (fun seen item => if item ∈ seen then seen else seen ++ [item]) []

/-- The word for the kind of a schema. -/
def kind : Schema → String
  | .null => "null"
  | .undefined => "undefined"
  | .unknown => "unknown"
  | .string _ => "string"
  | .number _ => "number"
  | .boolean => "boolean"
  | .object => "object"
  | .array _ => "array"
  | .union _ => "union"

mutual

/-- A schema as a JSON object that names its kind. -/
def toJson : Schema → Json
  | .string format => .obj [("kind", .str "string"), ("format", .str format.name)]
  | .number integral => .obj [("kind", .str "number"), ("is_integer", .bool integral)]
  | .array element => .obj [("kind", .str "array"), ("element", toJson element)]
  | .union variants => .obj [("kind", .str "union"), ("variants", .arr (toJsons variants))]
  | schema => .obj [("kind", .str schema.kind)]

/-- The variants of a union as JSON objects. -/
def toJsons : List Schema → List Json
  | [] => []
  | schema :: rest => toJson schema :: toJsons rest

end

end Schema

end Rigor
