import Rigor.Boundary.Request
import Rigor.Level.Request
import Rigor.Proofs.Registry.Snapshot
import Rigor.Risk.Request

/-!
# The three registries are snapshots

The catalog of levels, the risk register and the library of boundary patterns serve requests of
their own. For each of them `demand` says what a request asks for, and `met_demand` shows that
serving it does just that, by `Reads.bind` along the actions that the request is made of.

The loaders are clean. Those of levels and boundary patterns know no fault, and that of risks finds
a fault before it puts a row.

* `registries_isSnapshot`: all three show one version of their file at a time.
-/

namespace Rigor

open Registry (Clean Demand Ignores IsSnapshot Reads isSnapshot reads_consult reads_load)

namespace Registry

variable {κ ν : Type} {loader : Loader κ ν}

/-- A request to reload does just that, and answers nothing. -/
theorem met_reload :
    Demand.reload.Met loader (Registry.reload loader >>= fun _ => pure Json.null) := by
  intro r
  cases h : (Registry.reload loader r).result with
  | error fault => rw [Act.bind_of_error h]; exact ⟨rfl, rfl⟩
  | ok _ => rw [Act.bind_of_ok h]; exact ⟨rfl, rfl⟩

/-- A request to replace the file does just that, and answers nothing. -/
theorem met_replace (file : DefinitionFile) :
    (Demand.replace file).Met loader (Registry.replace file >>= fun _ => pure Json.null) :=
  fun _ => ⟨rfl, rfl⟩

end Registry

/-! ### Levels -/

namespace Level

/-- What a request demands of the catalog. The report of an analysis without modules needs no
rows. -/
def Request.demand : Request → Demand
  | .reload => .reload
  | .write file => .replace file
  | .report analysis => if analysis.modules.isEmpty then .pass else .read
  | _ => .read

/-- Whatever the data list, loading it is no fault. -/
theorem loadListed_fault (rows : Rows) (listed : Except Fault (List Json)) :
    (loadListed rows listed).fault = none := by
  cases listed <;> rfl

/-- Loading a file is no fault, whatever becomes of reading it. -/
theorem loader_fault (file : DefinitionFile) (rows : Rows) : (loader file rows).fault = none := by
  cases file with
  | missing => rfl
  | broken => rfl
  | unreadable failure => rfl
  | data content => exact loadListed_fault rows _
  | extended content => exact loadListed_fault rows _

/-- As there is no fault, there is none that could leave rows behind. -/
theorem clean_loader : Clean loader :=
  fun file rows h => absurd (loader_fault file rows) h

/-- The values of at least one module are read from the rows. -/
theorem reads_moduleValues (m : Report.ModuleAnalysis) (rest : List Report.ModuleAnalysis) :
    Reads loader (Report.moduleValues (m :: rest)) := by
  have hfirst : Reads loader (Catalog.consult (Report.moduleValue · m)) := reads_consult _
  refine hfirst.bind fun first => ?_
  cases rest with
  | nil => exact Or.inr ((Ignores.pure []).answer _)
  | cons next rest => exact Or.inl ((reads_moduleValues next rest).answer _)

/-- Once the values of the modules are known, a report needs no rows. -/
theorem ignores_print (template : String) (analysis : Report.Analysis) (modules : List Json) :
    Ignores (do
      let report ← Act.ofExcept
        (Report.Template.render (Report.valuesOf analysis modules) template)
      Act.log .debug
        ("Rendered coverage report for " ++ Text.decimal analysis.modules.length ++ " modules")
      return report : Act Catalog String) :=
  (Ignores.ofExcept _).bind fun report => (Ignores.log _ _).bind fun _ => Ignores.pure report

/-- The report of an analysis reads the rows just if it has modules. -/
theorem met_report (analysis : Report.Analysis) :
    (Request.report analysis).demand.Met loader (Catalog.serve (.report analysis)) := by
  obtain ⟨sessionId, modules, overallRisk, summary⟩ := analysis
  have hprint := ignores_print Report.packagedTemplate ⟨sessionId, modules, overallRisk, summary⟩
  cases modules with
  | nil =>
      show Ignores (Catalog.serve (.report ⟨sessionId, [], overallRisk, summary⟩))
      have hvalues : Ignores (Report.moduleValues []) := Ignores.pure []
      exact (hvalues.bind hprint).answer _
  | cons m rest =>
      show Reads loader (Catalog.serve (.report ⟨sessionId, m :: rest, overallRisk, summary⟩))
      exact ((reads_moduleValues m rest).bind fun values => Or.inr (hprint values)).answer _

/-- A catalog does what a request demands of it. -/
theorem met_demand (q : Request) : q.demand.Met loader (Catalog.serve q) := by
  cases q with
  | load => exact reads_load.answer _
  | reload => exact Registry.met_reload
  | write file => exact Registry.met_replace file
  | report analysis => exact met_report analysis
  | _ => exact (reads_consult _).answer _

end Level

/-! ### Risks -/

namespace Risk

/-- What a request demands of the register. The analysis of no modules needs no rows. -/
def Request.demand : Request → Demand
  | .reload => .reload
  | .write file => .replace file
  | .analyzeAll sources => if sources.isEmpty then .pass else .read
  | _ => .read

/-- A fault of the data leaves the rows as they were. -/
theorem rows_loadListed_of_fault {rows : Rows} {listed : Except Fault (List Json)}
    (h : (loadListed rows listed).fault ≠ none) : (loadListed rows listed).rows = rows := by
  cases listed with
  | error fault => rfl
  | ok entries => exact absurd rfl h

/-- The loader puts no row before it finds a fault. -/
theorem clean_loader : Clean loader := by
  intro file rows h
  cases file with
  | missing => rfl
  | broken => rfl
  | unreadable failure => rfl
  | data content => exact rows_loadListed_of_fault h
  | extended content => exact rows_loadListed_of_fault h

/-- The level of a text is read from the rows. -/
theorem reads_classify (code : String) : Reads loader (Register.classify code) := by
  have hfind : Reads loader (Register.find code) := reads_consult _
  refine hfind.bind fun found => Or.inr ?_
  exact (Ignores.log _ _).answer _

/-- The analysis of a module is read from the rows. -/
theorem reads_analyzeModule (current : Level) (m : Report.ModuleSource) :
    Reads loader (Report.analyzeModule current m) := by
  have hrisks : Reads loader (Register.risks m.code) := reads_consult _
  exact (reads_classify m.code).bind fun _ => Or.inl (hrisks.answer _)

/-- So is the analysis of at least one module. -/
theorem reads_analyzeAll (m : Report.ModuleSource) (rest : List Report.ModuleSource) :
    Reads loader (Report.analyzeAll (m :: rest)) := by
  refine (reads_analyzeModule .staticTypes m).bind fun first => ?_
  cases rest with
  | nil => exact Or.inr ((Ignores.pure []).answer _)
  | cons next rest => exact Or.inl ((reads_analyzeAll next rest).answer _)

/-- Once the modules have been analyzed, what is left of an analysis needs no rows. -/
theorem ignores_aggregate (sessionId : String) (analyses : List Report.ModuleAnalysis) :
    Ignores (do
      Act.log (Report.reportAnalysis analyses).severity (Report.reportAnalysis analyses).message
      return Report.aggregate sessionId analyses : Act Register Report.Analysis) :=
  (Ignores.log _ _).answer _

/-- The analysis of modules reads the rows just if there are modules. -/
theorem met_analyzeAll (sources : List Report.ModuleSource) :
    (Request.analyzeAll sources).demand.Met loader (Register.serve (.analyzeAll sources)) := by
  have haggregate := ignores_aggregate Report.localSession
  cases sources with
  | nil =>
      show Ignores (Register.serve (.analyzeAll []))
      have hall : Ignores (Report.analyzeAll []) := Ignores.pure []
      exact (hall.bind haggregate).answer _
  | cons m rest =>
      show Reads loader (Register.serve (.analyzeAll (m :: rest)))
      exact ((reads_analyzeAll m rest).bind fun analyses => Or.inr (haggregate analyses)).answer _

/-- The register does what a request demands of it. -/
theorem met_demand (q : Request) : q.demand.Met loader (Register.serve q) := by
  cases q with
  | load => exact reads_load.answer _
  | reload => exact Registry.met_reload
  | write file => exact Registry.met_replace file
  | classify code => exact (reads_classify code).answer _
  | analyze source => exact (reads_analyzeModule .staticTypes source).answer _
  | analyzeAll sources => exact met_analyzeAll sources
  | _ => exact (reads_consult _).answer _

end Risk

/-! ### Boundary patterns -/

namespace Boundary

/-- What a request demands of the library. -/
def Request.demand : Request → Demand
  | .write file => .replace file
  | _ => .read

/-- Whatever the data list, loading it is no fault. -/
theorem loadListed_fault (rows : Rows) (listed : Except Fault (List Json)) :
    (loadListed rows listed).fault = none := by
  cases listed <;> rfl

/-- Loading a file is no fault, whatever becomes of reading it. -/
theorem loader_fault (file : DefinitionFile) (rows : Rows) : (loader file rows).fault = none := by
  cases file with
  | missing => rfl
  | broken => rfl
  | unreadable failure => rfl
  | data content => exact loadListed_fault rows _
  | extended content => exact loadListed_fault rows _

/-- As there is no fault, there is none that could leave rows behind. -/
theorem clean_loader : Clean loader :=
  fun file rows h => absurd (loader_fault file rows) h

/-- The library does what a request demands of it. -/
theorem met_demand (q : Request) : q.demand.Met loader (Library.serve q) := by
  cases q with
  | load => exact reads_load.answer _
  | write file => exact Registry.met_replace file
  | _ => exact (reads_consult _).answer _

end Boundary

/-- **Every registry is a snapshot** of one version of its definition file, whatever requests it
serves and however the file is replaced in between. -/
theorem registries_isSnapshot :
    IsSnapshot Level.loader Level.Catalog.serve Level.Request.demand ∧
      IsSnapshot Risk.loader Risk.Register.serve Risk.Request.demand ∧
      IsSnapshot Boundary.loader Boundary.Library.serve Boundary.Request.demand :=
  ⟨isSnapshot Level.clean_loader Level.met_demand, isSnapshot Risk.clean_loader Risk.met_demand,
    isSnapshot Boundary.clean_loader Boundary.met_demand⟩

end Rigor
