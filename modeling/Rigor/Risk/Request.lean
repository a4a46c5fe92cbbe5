import Rigor.Report.Analyze

/-!
# Requests to the risk register
-/

namespace Rigor.Risk

/-- A request to the register. -/
inductive Request where
  | load
  | reload
  /-- Replace the definition file. -/
  | write (file : DefinitionFile)
  | count
  | list
  | get (category : Category)
  | stats
  /-- The level that a text is recommended. -/
  | classify (code : String)
  /-- The categories found in a text. -/
  | find (code : String)
  /-- The statements of the risks found in a text. -/
  | risks (code : String)
  /-- Analyze a module that has static types. -/
  | analyze (source : Report.ModuleSource)
  /-- Analyze the modules of a local session. -/
  | analyzeAll (sources : List Report.ModuleSource)

/-- The answer to a request. -/
def Register.serve : Request → Act Register Json
  | .load => do
    load
    return .null
  | .reload => do
    reload
    return .null
  | .write file => do
    Registry.replace file
    return .null
  | .count => return .int (← count)
  | .list => return .arr ((← list).map Pattern.toJson)
  | .get category => return ((← get category).map Pattern.toJson).getD .null
  | .stats => return (← stats).toJson
  | .classify code => return (← classify code).toJson
  | .find code => return .arr ((← find code).map Match.toJson)
  | .risks code => return .arr ((← risks code).map .str)
  | .analyze source => return (← Report.analyzeModule .staticTypes source).toJson
  | .analyzeAll sources => return (← Report.analyzeModules Report.localSession sources).toJson

end Rigor.Risk
