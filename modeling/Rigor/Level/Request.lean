import Rigor.Level.Catalog
import Rigor.Report.Coverage

/-!
# Requests to the catalog of levels
-/

namespace Rigor.Level

/-- A request to the catalog. -/
inductive Request where
  | load
  | reload
  /-- Replace the definition file. -/
  | write (file : DefinitionFile)
  | count
  | list
  | get (level : Level)
  | describe (level : Level)
  | tools (level : Level)
  | summaries
  /-- Render the coverage report of an analysis. -/
  | report (analysis : Report.Analysis)

/-- The answer to a request. -/
def Catalog.serve : Request → Act Catalog Json
  | .load => do
    load
    return .null
  | .reload => do
    reload
    return .null
  | .write file => do
    Registry.replace file
    return .null
  | .count => return .int (← count)
  | .list => return .arr ((← consult Level.list).map Definition.toJson)
  | .get level => return ((← get level).map Definition.toJson).getD .null
  | .describe level => return .str (← consult (Level.describe · level))
  | .tools level => return .arr ((← consult (Level.tools · level)).map .str)
  | .summaries => return .arr ((← consult Level.summaries).map Summary.toJson)
  | .report analysis => return .str (← Report.coverage Report.packagedTemplate analysis)

end Rigor.Level
