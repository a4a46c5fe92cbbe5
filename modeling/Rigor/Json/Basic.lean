import Rigor.Number.Binary64
import Rigor.Table

/-!
# JSON values

Integers of any size and floating-point numbers are kept apart, and objects keep the order of their
members, one value to a key.
-/

namespace Rigor

/-- A JSON value. -/
inductive Json where
  | null
  | bool (value : Bool)
  /-- A number written without fraction and exponent. -/
  | int (value : Int)
  /-- Any other number. -/
  | float (value : Binary64)
  | str (text : String)
  | arr (items : List Json)
  | obj (members : List (String × Json))
  deriving Inhabited

namespace Json

/-- The value of a member; a value that is no object has none. -/
def member? : Json → String → Option Json
  | .obj members, key => Table.get? members key
  | _, _ => none

/-- Whether the value stands for absent content: null, false, zero, or an empty text or
collection. -/
def isBlank : Json → Bool
  | .null => true
  | .bool value => !value
  | .int value => value == 0
  | .float value => match value with
    | .finite _ units => units == 0
    | _ => false
  | .str text => text.isEmpty
  | .arr items => items.isEmpty
  | .obj members => members.isEmpty

/-- The values that running through a value yields: the items of an array, the keys of an object,
the characters of a text. Nothing else can be run through. -/
def elements? : Json → Option (List Json)
  | .arr items => some items
  | .obj members => some (members.map fun m => .str m.1)
  | .str text => some (text.toList.map fun c => .str (String.singleton c))
  | _ => none

/-- The word by which messages name the type of a value. -/
def typeName : Json → String
  | .null => "NoneType"
  | .bool _ => "bool"
  | .int _ => "int"
  | .float _ => "float"
  | .str _ => "str"
  | .arr _ => "list"
  | .obj _ => "dict"

end Json

end Rigor
