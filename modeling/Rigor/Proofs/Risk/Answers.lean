import Rigor.Proofs.Registry.Answers
import Rigor.Report.Analyze

/-!
# What a register answers

A register that loads to some rows gives the answers that these rows give: about a text
(`answers_classify`) and about modules, one after the other (`answers_analyzeModules`).
-/

namespace Rigor.Risk

open Registry (Answers)

variable {rows : Rows}

/-- A register finds in a text what its rows do. -/
theorem answers_find (code : String) :
    Answers loader rows (Register.find code) (findings rows code) :=
  Answers.consult (findings · code)

/-- It recommends the level that its rows recommend. -/
theorem answers_classify (code : String) :
    Answers loader rows (Register.classify code) (recommend rows code) :=
  (answers_find code).bind ((Answers.log _ _).bind (Answers.pure _))

/-- It states the risks that its rows state. -/
theorem answers_risks (code : String) :
    Answers loader rows (Register.risks code) (statements rows code) :=
  Answers.consult (statements · code)

/-- It says of a module what its rows say. -/
theorem answers_analyzeModule (current : Level) (m : Report.ModuleSource) :
    Answers loader rows (Report.analyzeModule current m)
      (Report.moduleAnalysisIn rows current m) :=
  (answers_classify m.code).bind ((answers_risks m.code).bind (Answers.pure _))

/-- It says of modules what its rows say of each of them. -/
theorem answers_analyzeAll (sources : List Report.ModuleSource) :
    Answers loader rows (Report.analyzeAll sources)
      (sources.map (Report.moduleAnalysisIn rows .staticTypes)) := by
  induction sources with
  | nil => exact Answers.pure []
  | cons m rest ih => exact (answers_analyzeModule .staticTypes m).bind (ih.bind (Answers.pure _))

/-- The analysis of modules by a register is that by its rows. -/
theorem answers_analyzeModules (sessionId : String) (sources : List Report.ModuleSource) :
    Answers loader rows (Report.analyzeModules sessionId sources)
      (Report.analysisIn rows sessionId sources) :=
  (answers_analyzeAll sources).bind ((Answers.log _ _).bind (Answers.pure _))

end Rigor.Risk
