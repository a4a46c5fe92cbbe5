import Rigor.Check.Record
import Rigor.Level.Basic

/-!
# Analyses

What a verification analysis says: of each module the level it has, the level it is recommended, the
risks found and the effort it takes, and of all modules together the overall risk.
-/

namespace Rigor.Report

open Check

/-- The effort of reaching a level. -/
inductive Effort where
  | low
  | medium
  | high
  deriving DecidableEq, Repr, Inhabited

namespace Effort

/-- Every effort. -/
def all : List Effort := [.low, .medium, .high]

/-- The name of an effort. -/
def name : Effort → String
  | .low => "low"
  | .medium => "medium"
  | .high => "high"

/-- An effort by its name. -/
def read : Json → Checked Effort :=
  named fun s => all.find? (·.name == s)

end Effort

/-- The risk of all modules together. -/
inductive OverallRisk where
  | low
  | medium
  | high
  | critical
  deriving DecidableEq, Repr, Inhabited

/-- The name of an overall risk. -/
def OverallRisk.name : OverallRisk → String
  | .low => "low"
  | .medium => "medium"
  | .high => "high"
  | .critical => "critical"

/-- A named source text. -/
structure ModuleSource where
  /-- The name of the module. -/
  name : String
  /-- Its text. -/
  code : String
  deriving DecidableEq

namespace ModuleSource

/-- A module, from an object. -/
def read (setting : Setting) : Json → Checked ModuleSource :=
  record setting fun members =>
    ModuleSource.mk <$> required "name" text members <*> required "code" text members

/-- A module as an object. -/
def toJson (m : ModuleSource) : Json :=
  .obj [("name", .str m.name), ("code", .str m.code)]

end ModuleSource

/-- What the analysis says of one module. -/
structure ModuleAnalysis where
  /-- The name of the module. -/
  moduleName : String
  /-- The level it has. -/
  currentLevel : Level
  /-- The level it is recommended. -/
  recommendedLevel : Level
  /-- The statements of its risks. -/
  risks : List String
  /-- Why the level is recommended. -/
  rationale : String
  /-- The effort of reaching the level. -/
  effort : Effort
  deriving DecidableEq

namespace ModuleAnalysis

/-- The analysis of a module, from an object. -/
def read (setting : Setting) : Json → Checked ModuleAnalysis :=
  record setting fun members =>
    ModuleAnalysis.mk <$> required "module_name" text members
      <*> required "current_level" Level.read members
      <*> required "recommended_level" Level.read members
      <*> optional "risks" (list text) [] members
      <*> optional "rationale" text "" members
      <*> required "estimated_effort" Effort.read members

/-- The analysis of a module as an object. -/
def toJson (m : ModuleAnalysis) : Json :=
  .obj [("module_name", .str m.moduleName), ("current_level", m.currentLevel.toJson),
    ("recommended_level", m.recommendedLevel.toJson), ("risks", .arr (m.risks.map .str)),
    ("rationale", .str m.rationale), ("estimated_effort", .str m.effort.name)]

/-- The module is recommended a higher level than it has. -/
def needsUpgrade (m : ModuleAnalysis) : Bool :=
  m.currentLevel.rank < m.recommendedLevel.rank

end ModuleAnalysis

/-- What the analysis says of all modules of a session. -/
structure Analysis where
  /-- The session. -/
  sessionId : String
  /-- Its modules in order. -/
  modules : List ModuleAnalysis
  /-- The word for their risk together. -/
  overallRisk : String
  /-- The result in a few sentences. -/
  summary : String
  deriving DecidableEq

namespace Analysis

/-- An analysis, from an object. -/
def read (setting : Setting) : Json → Checked Analysis :=
  record setting fun members =>
    Analysis.mk <$> required "session_id" text members
      <*> optional "modules" (list (ModuleAnalysis.read setting)) [] members
      <*> required "overall_risk" text members
      <*> optional "summary" text "" members

/-- An analysis as an object. -/
def toJson (a : Analysis) : Json :=
  .obj [("session_id", .str a.sessionId), ("modules", .arr (a.modules.map ModuleAnalysis.toJson)),
    ("overall_risk", .str a.overallRisk), ("summary", .str a.summary)]

end Analysis

end Rigor.Report
