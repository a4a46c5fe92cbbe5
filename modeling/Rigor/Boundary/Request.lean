import Rigor.Boundary.Library

/-!
# Requests to the library of boundary patterns
-/

namespace Rigor.Boundary

/-- A request to the library. -/
inductive Request where
  | load
  /-- Replace the definition file. -/
  | write (file : DefinitionFile)
  | count
  | list
  | get (key : String)

/-- The answer to a request. -/
def Library.serve : Request → Act Library Json
  | .load => do
    load
    return .null
  | .write file => do
    Registry.replace file
    return .null
  | .count => return .int (← count)
  | .list => return .arr ((← list).map Pattern.toJson)
  | .get key => return ((← get key).map Pattern.toJson).getD .null

end Rigor.Boundary
