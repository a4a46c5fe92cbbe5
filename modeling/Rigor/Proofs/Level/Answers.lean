import Rigor.Proofs.Registry.Answers
import Rigor.Proofs.Registry.Requests
import Rigor.Report.Coverage

/-!
# What a catalog answers

Loading a catalog never fails, whatever its file holds, so a catalog always answers from some rows
(`loadsTo_load`). Reports are made from these rows (`answers_coverage`).
-/

namespace Rigor.Level

open Registry (Answers LoadsTo)

variable {rows : Rows}

/-- Every catalog loads. -/
theorem loadsTo_load (r : Catalog) : LoadsTo loader r (Catalog.load r).state.rows :=
  Registry.loadsTo_load loader_fault r

/-- The values of the modules of a report are answered from the rows, one by one. -/
theorem answers_moduleValues (modules : List Report.ModuleAnalysis) :
    Answers loader rows (Report.moduleValues modules) (modules.map (Report.moduleValue rows)) := by
  induction modules with
  | nil => exact Answers.pure []
  | cons m rest ih =>
      exact (Answers.consult (Report.moduleValue · m)).bind (ih.bind (Answers.pure _))

/-- A report that the rows give is the report of every catalog that loads to them. -/
theorem answers_coverage {template report : String} {analysis : Report.Analysis}
    (h : Report.coverageIn rows template analysis = .ok report) :
    Answers loader rows (Report.coverage template analysis) report :=
  (answers_moduleValues analysis.modules).bind
    ((Answers.ofExcept h).bind ((Answers.log _ _).bind (Answers.pure _)))

end Rigor.Level
