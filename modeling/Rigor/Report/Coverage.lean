import Rigor.Level.Catalog
import Rigor.Report.Analysis
import Rigor.Report.Template.Plan

/-!
# Coverage reports

A coverage report shows an analysis by a template. The values at hand are those of the analysis and,
for each module, what the catalog of levels says of its two levels.

* `packagedTemplate`: the template in force where no other is given.
* `coverageIn`: the report as a function of the rows of the catalog.
* `coverage`: the same, asked of the catalog, which an analysis without modules does not consult.
-/

namespace Rigor.Report

/-- The packaged report template, line by line. -/
def packagedTemplate : String :=
  Text.joinWith "\n"
    ["# Verification Coverage Report",
     "",
     "**Session ID:** \x7b\x7b session_id \x7d\x7d",
     "**Overall Risk:** \x7b\x7b overall_risk | upper \x7d\x7d",
     "",
     "## Module Analysis",
     "",
     "\x7b% for module in modules %\x7d",
     "### \x7b\x7b module.name \x7d\x7d",
     "",
     "- Current Level: \x7b\x7b module.current_level \x7d\x7d "
       ++ "(\x7b\x7b module.current_description \x7d\x7d)",
     "- Recommended Level: \x7b\x7b module.recommended_level \x7d\x7d "
       ++ "(\x7b\x7b module.recommended_description \x7d\x7d)",
     "- Effort: \x7b\x7b module.effort \x7d\x7d",
     "",
     "**Risks:**",
     "\x7b% for risk in module.risks %\x7d",
     "- \x7b\x7b risk \x7d\x7d",
     "\x7b% endfor %\x7d",
     "",
     "**Rationale:** \x7b\x7b module.rationale \x7d\x7d",
     "",
     "**Recommended Tools:**",
     "\x7b\x7b module.tools | bullets \x7d\x7d",
     "",
     "\x7b% endfor %\x7d",
     "## Summary",
     "",
     "\x7b\x7b summary \x7d\x7d",
     ""]

/-- The values of a module that a template may refer to. -/
def moduleValue (rows : Level.Rows) (m : ModuleAnalysis) : Json :=
  .obj [("name", .str m.moduleName),
    ("current_level", m.currentLevel.toJson),
    ("current_description", .str (Level.describe rows m.currentLevel)),
    ("recommended_level", m.recommendedLevel.toJson),
    ("recommended_description", .str (Level.describe rows m.recommendedLevel)),
    ("effort", .str m.effort.name),
    ("risks", .arr (m.risks.map .str)),
    ("rationale", .str m.rationale),
    ("tools", .arr ((Level.tools rows m.recommendedLevel).map .str))]

/-- The values that a template may refer to, given those of the modules. -/
def valuesOf (a : Analysis) (modules : List Json) : Table String Json :=
  [("session_id", .str a.sessionId), ("overall_risk", .str a.overallRisk),
    ("summary", .str a.summary), ("modules", .arr modules)]

/-- The report of an analysis by the rows of the catalog. -/
def coverageIn (rows : Level.Rows) (template : String) (a : Analysis) : Except Fault String :=
  Template.render (valuesOf a (a.modules.map (moduleValue rows))) template

/-- The values of modules, asked of the catalog one after the other. -/
def moduleValues : List ModuleAnalysis → Act Level.Catalog (List Json)
  | [] => return []
  | m :: rest => do
    let first ← Level.Catalog.consult (moduleValue · m)
    let others ← moduleValues rest
    return first :: others

/-- The report of an analysis. -/
def coverage (template : String) (a : Analysis) : Act Level.Catalog String := do
  let modules ← moduleValues a.modules
  let report ← Act.ofExcept (Template.render (valuesOf a modules) template)
  Act.log .debug ("Rendered coverage report for " ++ Text.decimal a.modules.length ++ " modules")
  return report

end Rigor.Report
