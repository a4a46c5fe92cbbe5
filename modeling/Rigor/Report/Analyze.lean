import Rigor.Report.Analysis
import Rigor.Risk.Classify

/-!
# Analyzing modules

The analysis of modules from their source text, by the risk table alone.

* `Effort.above`, `OverallRisk.above`: the thresholds, in terms of the levels that are reached.
* `effortOf`, `overallOf`: the thresholds on any JSON value, which has to be a number.
* `analysisIn`: the analysis of modules as a function of the rows of the risk table.
* `analyzeModule`, `analyzeModules`: the same, asked of the registry, which a list without modules
  does not consult.
-/

namespace Rigor.Report

open Risk (Register Rows)

/-! ### Thresholds -/

/-- The effort of reaching a level, given which levels it is not below. -/
def Effort.above (reaches : Level → Bool) : Effort :=
  if reaches .propertyBasedTests then .high
  else if reaches .unitTests then .medium
  else .low

/-- The overall risk for a highest level, given which levels it is not below. -/
def OverallRisk.above (reaches : Level → Bool) : OverallRisk :=
  if reaches .formalVerification then .critical
  else if reaches .integrationTests then .high
  else if reaches .runtimeValidation then .medium
  else .low

/-- The effort of reaching a level. -/
def Effort.ofLevel (level : Level) : Effort :=
  Effort.above (·.le level)

/-- The overall risk of modules that are recommended the given levels. -/
def OverallRisk.ofLevels (levels : List Level) : OverallRisk :=
  OverallRisk.above (·.le (Level.highest levels))

/-- The effort that a number stands for. -/
def effortOf (value : Json) : Except Fault Effort :=
  match value.position? with
  | some position => .ok (Effort.above fun level => (Position.ofInt level.rank).le position)
  | none => .error (.noRank value)

/-- The greatest of some values, one if there are none. -/
def greatest : List Json → Except Fault Json
  | [] => .ok Level.staticTypes.toJson
  | value :: rest =>
    match Json.maximumFrom value rest with
    | .ok best => .ok best
    | .error (left, right) => .error (.incomparable left right)

/-- The overall risk that the greatest of some values stands for. -/
def overallOf (values : List Json) : Except Fault OverallRisk :=
  match greatest values with
  | .error fault => .error fault
  | .ok best =>
    match best.position? with
    | some position => .ok (OverallRisk.above fun level => (Position.ofInt level.rank).le position)
    | none => .error (.noRank best)

/-! ### Modules -/

/-- The session that an analysis belongs to if none is named. -/
def localSession : String := "local-analysis"

/-- The analysis of a module for which the level and the risks are known. -/
def moduleAnalysis (name : String) (current recommended : Level) (risks : List String) :
    ModuleAnalysis :=
  ⟨name, current, recommended, risks, "Local analysis for " ++ name, Effort.ofLevel recommended⟩

/-- The analysis of a module by the rows of the risk table. -/
def moduleAnalysisIn (rows : Rows) (current : Level) (m : ModuleSource) : ModuleAnalysis :=
  moduleAnalysis m.name current (Risk.recommend rows m.code) (Risk.statements rows m.code)

/-- The overall risk of modules that have been analyzed. -/
def overallRisk (modules : List ModuleAnalysis) : OverallRisk :=
  OverallRisk.ofLevels (modules.map ModuleAnalysis.recommendedLevel)

/-- How many modules need a higher level. -/
def upgrades (modules : List ModuleAnalysis) : Nat :=
  modules.countP ModuleAnalysis.needsUpgrade

/-- The summary of modules that have been analyzed. -/
def summaryText (modules : List ModuleAnalysis) : String :=
  "Analyzed " ++ Text.decimal modules.length ++ " modules. Overall risk: "
    ++ (overallRisk modules).name ++ ". " ++ Text.decimal (upgrades modules)
    ++ " modules need verification upgrades."

/-- The analysis of a session whose modules have been analyzed. -/
def aggregate (sessionId : String) (modules : List ModuleAnalysis) : Analysis :=
  ⟨sessionId, modules, (overallRisk modules).name, summaryText modules⟩

/-- The entry that reports an analysis. -/
def reportAnalysis (modules : List ModuleAnalysis) : LogEntry :=
  ⟨.info, "Analyzed " ++ Text.decimal modules.length ++ " modules: overall risk "
    ++ (overallRisk modules).name ++ ", " ++ Text.decimal (upgrades modules) ++ " need upgrades"⟩

/-- The analysis of modules by the rows of the risk table. -/
def analysisIn (rows : Rows) (sessionId : String) (modules : List ModuleSource) : Analysis :=
  aggregate sessionId (modules.map (moduleAnalysisIn rows .staticTypes))

/-- Analyze one module. -/
def analyzeModule (current : Level) (m : ModuleSource) : Act Register ModuleAnalysis := do
  let recommended ← Register.classify m.code
  let risks ← Register.risks m.code
  return moduleAnalysis m.name current recommended risks

/-- Analyze modules one after the other. -/
def analyzeAll : List ModuleSource → Act Register (List ModuleAnalysis)
  | [] => return []
  | m :: rest => do
    let first ← analyzeModule .staticTypes m
    let others ← analyzeAll rest
    return first :: others

/-- Analyze the modules of a session. -/
def analyzeModules (sessionId : String) (modules : List ModuleSource) : Act Register Analysis := do
  let analyses ← analyzeAll modules
  Act.log (reportAnalysis analyses).severity (reportAnalysis analyses).message
  return aggregate sessionId analyses

end Rigor.Report
