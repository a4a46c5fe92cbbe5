import Rigor.Proofs.Level.Answers
import Rigor.Proofs.Report.Packaged
import Rigor.Proofs.Report.Template.Printing
import Rigor.Proofs.Report.Template.Scope

/-!
# The layout of coverage reports

`layout` writes a report down directly, line by line. The packaged template comes to the same for
every analysis and every catalog (`coverage_eq_layout`), whatever texts the analysis has: they are
inserted as they are and never read as a part of the template.

The proof goes along the tree of the template: the lines of a risk, of a module (`yields_module`,
with the loop over its risks inside), and of the report with the loop over its modules
(`yields_report`).
-/

namespace Rigor.Report

open Template
open Template.Printing

variable {rows : Level.Rows}

/-! ### The layout -/

/-- What a level guarantees, or its label where the catalog lacks it. -/
def descriptionOf (rows : Level.Rows) (level : Level) : String :=
  (Table.get? rows level).elim level.label Level.Definition.description

/-- The tools of a level, none where the catalog lacks it. -/
def toolsOf (rows : Level.Rows) (level : Level) : List String :=
  (Table.get? rows level).elim [] Level.Definition.tools

/-- The lines of a module. -/
def moduleLayout (rows : Level.Rows) (m : ModuleAnalysis) : String :=
  "### " ++ m.moduleName
    ++ "\n\n- Current Level: " ++ Text.decimal m.currentLevel.rank
    ++ " (" ++ descriptionOf rows m.currentLevel
    ++ ")\n- Recommended Level: " ++ Text.decimal m.recommendedLevel.rank
    ++ " (" ++ descriptionOf rows m.recommendedLevel
    ++ ")\n- Effort: " ++ m.effort.name
    ++ "\n\n**Risks:**\n" ++ Text.joinWith "" (m.risks.map fun risk => "- " ++ risk ++ "\n")
    ++ "\n**Rationale:** " ++ m.rationale
    ++ "\n\n**Recommended Tools:**\n"
    ++ Text.joinWith "\n" ((toolsOf rows m.recommendedLevel).map fun tool => "- " ++ tool)
    ++ "\n\n"

/-- The lines of a report. -/
def layout (rows : Level.Rows) (a : Analysis) : String :=
  "# Verification Coverage Report\n\n**Session ID:** " ++ a.sessionId
    ++ "\n**Overall Risk:** " ++ Text.toUpper a.overallRisk
    ++ "\n\n## Module Analysis\n\n" ++ Text.joinWith "" (a.modules.map (moduleLayout rows))
    ++ "## Summary\n\n" ++ a.summary

/-- The catalog describes a level by its definition, or by its label if it has none. -/
theorem describe_eq (rows : Level.Rows) (level : Level) :
    Level.describe rows level = descriptionOf rows level := by
  unfold Level.describe descriptionOf
  cases Table.get? rows level <;> rfl

/-- The catalog gives the tools of the definition of a level, or none. -/
theorem tools_eq (rows : Level.Rows) (level : Level) :
    Level.tools rows level = toolsOf rows level := by
  unfold Level.tools toolsOf
  cases Table.get? rows level <;> rfl

/-! ### Modules -/

/-- A text of the template is printed as it stands. -/
theorem yields_literal (scope : Scope) (text : String) : Yields (node scope (literal text)) text :=
  yields_text text

/-- A name is printed as its text after the filters. -/
theorem yields_shown {scope : Scope} {name text : String} {filters : List Filter} {after : String}
    (h : scope.find name = .ofText text)
    (hfilters : Yields (filterAll (.ofText text) filters) (.ofText after)) :
    Yields (node scope (shown name filters)) after :=
  yields_print_text (yields_resolve h (yields_follow_nil _) hfilters)

/-- A round of the loop over the risks prints one item of the list. -/
theorem yields_risk (scope : Scope) (risk : String) :
    Yields (nodes (scope.enter [("risk", .ofText risk)] riskNodes) riskNodes)
      ("- " ++ risk ++ "\n") := by
  have hrisk : (scope.enter [("risk", .ofText risk)] riskNodes).find "risk" = .ofText risk :=
    Scope.find_enter_item scope _ (by decide)
  have hnodes := (yields_literal _ "- ").nodes_cons <|
    (yields_shown hrisk (yields_filterAll_nil _)).nodes_cons <|
    (yields_literal _ "\n").nodes_cons Yields.nodes_nil
  rw [String.append_empty, ← String.append_assoc] at hnodes
  exact hnodes

/-- What a module has under a name. -/
def memberOf (rows : Level.Rows) (m : ModuleAnalysis) (name : String) : Option Json :=
  match moduleValue rows m with
  | .obj members => Table.get? members name
  | _ => none

section Module

variable {scope : Scope} {m : ModuleAnalysis}
  (hmodule : scope.find "module" = .data (moduleValue rows m))
include hmodule

/-- A member of the module is reached under its name, and filtered. -/
theorem yields_ofModule {name : String} {filters : List Filter} {value : Json} {after : Value}
    (hown : IsOwn name) (hvalue : memberOf rows m name = some value)
    (hfilters : Yields (filterAll (.data value) filters) after) :
    Yields (resolve scope (ofModule name filters)) after :=
  yields_resolve hmodule (yields_follow_member hown hvalue) hfilters

/-- A member that is a text is printed as this text. -/
theorem yields_textOfModule {name text : String} (hown : IsOwn name)
    (hvalue : memberOf rows m name = some (.str text)) :
    Yields (node scope (shownOfModule name [])) text :=
  yields_print_text (yields_ofModule hmodule hown hvalue (yields_filterAll_nil _))

/-- A member that is a level is printed as its rank. -/
theorem yields_levelOfModule {name : String} {level : Level} (hown : IsOwn name)
    (hvalue : memberOf rows m name = some level.toJson) :
    Yields (node scope (shownOfModule name [])) (Text.decimal level.rank) :=
  yields_print (yields_ofModule hmodule hown hvalue (yields_filterAll_nil _))

/-- The loop over the risks prints one item for each of them. -/
theorem yields_risks :
    Yields (node scope (.loop "risk" (ofModule "risks" []) riskNodes))
      (Text.joinWith "" (m.risks.map fun risk => "- " ++ risk ++ "\n")) := by
  have hrisks : Yields (resolve scope (ofModule "risks" [])) (.data (.arr (m.risks.map .str))) :=
    yields_ofModule hmodule (by decide) rfl (yields_filterAll_nil _)
  exact yields_loop hrisks (by decide) fun risk _ => yields_risk scope risk

/-- The tools are printed as a list with bullets. -/
theorem yields_tools :
    Yields (node scope (shownOfModule "tools" [.bullets]))
      (Text.joinWith "\n" ((toolsOf rows m.recommendedLevel).map fun tool => "- " ++ tool)) := by
  have hown : IsOwn "tools" := by decide
  have hvalue : memberOf rows m "tools" =
      some (.arr ((toolsOf rows m.recommendedLevel).map .str)) := by
    rw [← tools_eq]
    rfl
  exact yields_print_text (yields_ofModule hmodule hown hvalue (yields_bullets _))

/-- What a module comes to. -/
theorem yields_module : Yields (nodes scope moduleNodes) (moduleLayout rows m) := by
  have hname : Yields (node scope (shownOfModule "name" [])) m.moduleName :=
    yields_textOfModule hmodule (by decide) rfl
  have hcurrent : Yields (node scope (shownOfModule "current_level" [])) _ :=
    yields_levelOfModule hmodule (by decide) rfl
  have hcurrentDescription : Yields (node scope (shownOfModule "current_description" []))
      (descriptionOf rows m.currentLevel) := by
    rw [← describe_eq]
    exact yields_textOfModule hmodule (by decide) rfl
  have hrecommended : Yields (node scope (shownOfModule "recommended_level" [])) _ :=
    yields_levelOfModule hmodule (by decide) rfl
  have hrecommendedDescription : Yields (node scope (shownOfModule "recommended_description" []))
      (descriptionOf rows m.recommendedLevel) := by
    rw [← describe_eq]
    exact yields_textOfModule hmodule (by decide) rfl
  have heffort : Yields (node scope (shownOfModule "effort" [])) m.effort.name :=
    yields_textOfModule hmodule (by decide) rfl
  have hrationale : Yields (node scope (shownOfModule "rationale" [])) m.rationale :=
    yields_textOfModule hmodule (by decide) rfl
  have htext := yields_literal scope
  have hnodes := (htext "### ").nodes_cons <| hname.nodes_cons <|
    (htext "\n\n- Current Level: ").nodes_cons <| hcurrent.nodes_cons <|
    (htext " (").nodes_cons <| hcurrentDescription.nodes_cons <|
    (htext ")\n- Recommended Level: ").nodes_cons <| hrecommended.nodes_cons <|
    (htext " (").nodes_cons <| hrecommendedDescription.nodes_cons <|
    (htext ")\n- Effort: ").nodes_cons <| heffort.nodes_cons <|
    (htext "\n\n**Risks:**\n").nodes_cons <| (yields_risks hmodule).nodes_cons <|
    (htext "\n**Rationale:** ").nodes_cons <| hrationale.nodes_cons <|
    (htext "\n\n**Recommended Tools:**\n").nodes_cons <| (yields_tools hmodule).nodes_cons <|
    (htext "\n\n").nodes_cons Yields.nodes_nil
  unfold moduleLayout
  simp only [String.append_assoc, String.append_empty] at hnodes ⊢
  exact hnodes

end Module

/-! ### Reports -/

/-- The names that the packaged template reads have variables of their own. -/
theorem nodup_variables : ((packagedNodes.flatMap Node.reads).eraseDups.map fun name =>
    Text.decompose name.toList).Nodup := by
  decide +kernel

/-- A value of the report is found under its name if the template reads it. -/
theorem find_packaged {values : Table String Json} {name : String} {value : Json}
    (hread : name ∈ packagedNodes.flatMap Node.reads)
    (hvalue : Table.get? values name = some value) :
    (Scope.ofTemplate values packagedNodes).find name = .data value :=
  Scope.find_ofTemplate (by decide) nodup_variables hread hvalue

/-- What the modules come to. -/
theorem yields_modules {scope : Scope} {modules : List ModuleAnalysis}
    (h : scope.find "modules" = .data (.arr (modules.map (moduleValue rows)))) :
    Yields (node scope (.loop "module" ⟨.name "modules", [], []⟩ moduleNodes))
      (Text.joinWith "" (modules.map (moduleLayout rows))) := by
  have hmodules : Yields (resolve scope ⟨.name "modules", [], []⟩)
      (.data (.arr (modules.map (moduleValue rows)))) :=
    yields_resolve h (yields_follow_nil _) (yields_filterAll_nil _)
  refine yields_loop hmodules (by decide) fun m _ => yields_module ?_
  exact Scope.find_enter_item scope _ (by decide)

/-- What a report comes to. -/
theorem yields_report {scope : Scope} {a : Analysis}
    (hsession : scope.find "session_id" = .ofText a.sessionId)
    (hrisk : scope.find "overall_risk" = .ofText a.overallRisk)
    (hmodules : scope.find "modules" = .data (.arr (a.modules.map (moduleValue rows))))
    (hsummary : scope.find "summary" = .ofText a.summary) :
    Yields (nodes scope packagedNodes) (layout rows a) := by
  have htext := yields_literal scope
  have hnodes := (htext "# Verification Coverage Report\n\n**Session ID:** ").nodes_cons <|
    (yields_shown hsession (yields_filterAll_nil _)).nodes_cons <|
    (htext "\n**Overall Risk:** ").nodes_cons <|
    (yields_shown hrisk (yields_upper _)).nodes_cons <|
    (htext "\n\n## Module Analysis\n\n").nodes_cons <| (yields_modules hmodules).nodes_cons <|
    (htext "## Summary\n\n").nodes_cons <|
    (yields_shown hsummary (yields_filterAll_nil _)).nodes_cons <|
    (htext "").nodes_cons Yields.nodes_nil
  unfold layout
  simp only [String.append_assoc, String.append_empty] at hnodes ⊢
  exact hnodes

/-- The packaged template comes to the layout, whatever the rows and the analysis are. -/
theorem coverageIn_packagedTemplate (rows : Level.Rows) (a : Analysis) :
    coverageIn rows packagedTemplate a = .ok (layout rows a) := by
  have hcheck : ∀ scope, Plan.check scope packagedNodes = .ok () :=
    fun scope => (Plan.check_eq_ok_iff scope packagedNodes).mpr nesting_packagedNodes
  have hreport : Yields
      (nodes (Scope.ofTemplate (valuesOf a (a.modules.map (moduleValue rows))) packagedNodes)
        packagedNodes)
      (layout rows a) :=
    yields_report (find_packaged (by decide) rfl) (find_packaged (by decide) rfl)
      (find_packaged (by decide) rfl) (find_packaged (by decide) rfl)
  rw [coverageIn, render, parse_packagedTemplate]
  simp only [hcheck]
  rw [StateT.run'_eq, hreport []]
  rfl

/-- **The packaged template realises the layout**, for every analysis and every catalog. -/
theorem coverage_eq_layout (r : Level.Catalog) (a : Analysis) :
    (coverage packagedTemplate a r).result =
      .ok (layout (Level.Catalog.load r).state.rows a) :=
  (Level.answers_coverage (coverageIn_packagedTemplate _ a) r (Level.loadsTo_load r)).1

end Rigor.Report
