import Rigor.Proofs.Risk.Keywords
import Rigor.Proofs.Schema.Accepted
import Rigor.Proofs.Service.Repost

/-!
# Reading undoes writing

An object that is read as an instance of a model is written as an object again, and that is read as
the same instance (`reading_undoes_writing`). So the lax rules act once: what they have made of a
value, a level out of a text or a keyword in normal form, they leave alone from then on.

The sample of a boundary pattern may hold numbers that JSON lacks. They are written as null, and a
pattern that has some is not read back as it is (`not_rereads_boundary`).
-/

namespace Rigor

open Check Service

/-- What is read under some setting is read under every other from what it is written as, and is the
same. -/
def Rereads {α : Type} (read : Setting → Json → Checked α) (write : α → Json) : Prop :=
  ∀ setting value a, read setting value = .ok a → ∀ later, read later (write a) = .ok a

/-- **Reading undoes writing.** Every instance of a model that some object is read as is read again
from the object that it is written as. Only a boundary pattern comes back with null for the numbers
of its sample that JSON lacks. So the response to an analysis of modules, posted as it is, is read
as the analysis that was made, and this analysis is reported. -/
theorem reading_undoes_writing :
    Rereads Level.Definition.read Level.Definition.toJson ∧
      Rereads Level.Summary.read Level.Summary.toJson ∧
      Rereads Report.ModuleSource.read Report.ModuleSource.toJson ∧
      Rereads Report.ModuleAnalysis.read Report.ModuleAnalysis.toJson ∧
      Rereads Report.Analysis.read Report.Analysis.toJson ∧
      Rereads Risk.Match.read Risk.Match.toJson ∧
      Rereads Risk.Pattern.read Risk.Pattern.toJson ∧
      Rereads Diagnostic.read Diagnostic.toJson ∧
      Rereads (fun _ => Schema.read) Schema.toJson ∧
      (∀ setting value p, Boundary.Pattern.read setting value = .ok p → ∀ later,
        Boundary.Pattern.read later p.toJson
            = .ok { p with sample := Json.blankMembers p.sample } ∧
          (Boundary.Pattern.read later p.toJson = .ok p ↔
            (Json.obj p.sample).isFinite = true)) ∧
      ∀ (s later : Session) (body : Payload) (response : Response),
        (Session.handle (postModules body) s).result = .ok response → response.status = 200 →
          ∃ value request analysis, body = .json value ∧
            AnalyzeRequest.read value = .ok request ∧
            (Report.analyzeModules request.sessionId request.modules s.risks).result
              = .ok analysis ∧
            response.body = analysis.toJson ∧
            Report.Analysis.read .request response.body = .ok analysis ∧
            (Session.handle (postAnalysis (.json response.body)) later).result
              = .ok (reportResponse later analysis) := by
  refine ⟨?_, ?_, ?_, ?_, ?_, ?_, ?_, ?_, ?_, ?_, ?_⟩
  · intro _ _ definition _ later
    exact definition.read_toJson later
  · intro _ _ summary _ later
    exact summary.read_toJson later
  · intro _ _ source _ later
    exact source.read_toJson later
  · intro _ _ m _ later
    exact m.read_toJson later
  · intro _ _ analysis _ later
    exact analysis.read_toJson later
  · intro _ _ found _ later
    exact found.read_toJson later
  · intro _ _ row hread later
    exact Risk.Pattern.read_toJson_of_read hread later
  · intro _ _ diagnostic _ later
    exact diagnostic.read_toJson later
  · intro _ _ schema hread _
    exact Schema.read_toJson_of_read hread
  · intro _ _ p _ later
    exact ⟨p.read_toJson later, p.read_toJson_eq_self_iff later⟩
  · intro s later body response hresponse hstatus
    obtain ⟨value, request, analysis, hbody, hrequest, hanalysis, hwritten⟩ :=
      exists_analysis hresponse hstatus
    refine ⟨value, request, analysis, hbody, hrequest, hanalysis, hwritten, ?_, ?_⟩
    · rw [hwritten, analysis.read_toJson]
    · rw [hwritten, result_postAnalysis]

/-! ### Lax values -/

/-- An object that gives the level as a text, and no tools. -/
def unitTestsObject : Json :=
  .obj [("level", .str " 3.0 "), ("name", .str "Unit tests"), ("description", .str "Behaviour")]

/-- The definition of a level that it comes to. -/
def unitTestsDefinition : Level.Definition :=
  ⟨.unitTests, "Unit tests", "Behaviour", []⟩

/-- An object with keywords that are not in normal form. -/
def paymentsObject : Json :=
  .obj [("category", .str "financial"), ("keywords", .arr [.str "PAYΣ\t", .str " Refund"]),
    ("level", .bool true), ("risk", .str "Money is moved")]

/-- The row of the risk table that it comes to. -/
def paymentsRow : Risk.Pattern :=
  ⟨.financial, ["payς", "refund"], .staticTypes, "Money is moved"⟩

/-- An object with a path of a name and an index. -/
def zerosObject : Json :=
  .obj [("path", .arr [.str "0", .bool false]), ("message", .str "too small")]

/-- The diagnostic that it comes to, which tells the two zeros apart. -/
def zerosDiagnostic : Diagnostic :=
  ⟨[.name "0", .index 0], "too small"⟩

/-- An object with a schema inside a schema, and a word for a truth value. -/
def unionObject : Json :=
  .obj [("kind", .str "union"), ("variants", .arr
    [.obj [("kind", .str "array"), ("element", .obj [("kind", .str "string")])],
      .obj [("kind", .str "number"), ("is_integer", .str "YES")]])]

/-- The schema that it comes to. -/
def unionSchema : Schema :=
  .union [.array (.string .plain), .number true]

/-- An object with an infinity in the sample. -/
def limitsObject : Json :=
  .obj [("key", .str "limits"), ("name", .str "Limits"), ("description", .str "Request limits"),
    ("schema_expression", .str "object({})"),
    ("sample", .obj [("most", .float (.infinite false))])]

/-- The boundary pattern that it comes to, with the infinity or what stands for it. -/
def limitsPattern (most : Json) : Boundary.Pattern :=
  ⟨"limits", "Limits", "Request limits", "object({})", [("most", most)]⟩

/-- A request to analyze one module. -/
def billingRequest : Json :=
  .obj [("modules", .arr [.obj [("name", .str "billing"), ("code", .str "charge(card)")]])]

/-- The analysis of that module by the packaged risk table. -/
def billingAnalysis : Report.Analysis :=
  Report.analysisIn (Risk.rowsOf Risk.packaged) Report.localSession [⟨"billing", "charge(card)"⟩]

/-- What lax values come to, and that it is read back. -/
theorem reading_undoes_writing_lax :
    (Level.Definition.read .document unitTestsObject = .ok unitTestsDefinition ∧
        Level.Definition.read .request unitTestsDefinition.toJson = .ok unitTestsDefinition) ∧
      (Risk.Pattern.read .document paymentsObject = .ok paymentsRow ∧
        Risk.Pattern.read .request paymentsRow.toJson = .ok paymentsRow) ∧
      (Diagnostic.read .document zerosObject = .ok zerosDiagnostic ∧
        Diagnostic.read .request zerosDiagnostic.toJson = .ok zerosDiagnostic) ∧
      (Schema.read unionObject = .ok unionSchema ∧
        Schema.read unionSchema.toJson = .ok unionSchema) ∧
      (Boundary.Pattern.read .document limitsObject
          = .ok (limitsPattern (.float (.infinite false))) ∧
        Boundary.Pattern.read .request (limitsPattern (.float (.infinite false))).toJson
          = .ok (limitsPattern .null)) ∧
      (Session.handle (postModules (.json billingRequest)) Session.packaged).result
          = .ok (ok billingAnalysis.toJson) ∧
        (Session.handle (postAnalysis (.json billingAnalysis.toJson)) Session.packaged).result
          = .ok (reportResponse Session.packaged billingAnalysis) := by
  obtain ⟨hdefinition, -, -, -, -, -, hpattern, hdiagnostic, hschema, hboundary, hposted⟩ :=
    reading_undoes_writing
  have hlevel : Level.Definition.read .document unitTestsObject = .ok unitTestsDefinition := by
    decide +kernel
  have hpayments : Risk.Pattern.read .document paymentsObject = .ok paymentsRow := by
    decide +kernel
  have hzeros : Diagnostic.read .document zerosObject = .ok zerosDiagnostic := by
    decide +kernel
  have hunion : Schema.read unionObject = .ok unionSchema := by
    decide +kernel
  have hlimits : Boundary.Pattern.read .document limitsObject
      = .ok (limitsPattern (.float (.infinite false))) := rfl
  have hmodules : (Session.handle (postModules (.json billingRequest)) Session.packaged).result
      = .ok (ok billingAnalysis.toJson) := by
    have hrequest : AnalyzeRequest.read billingRequest
        = .ok ⟨[⟨"billing", "charge(card)"⟩], Report.localSession⟩ := rfl
    exact result_postModules hrequest Risk.loadsTo_packaged
  refine ⟨⟨hlevel, hdefinition _ _ _ hlevel _⟩, ⟨hpayments, hpattern _ _ _ hpayments _⟩,
    ⟨hzeros, hdiagnostic _ _ _ hzeros _⟩, ⟨hunion, hschema .document _ _ hunion .document⟩,
    ⟨hlimits, (hboundary _ _ _ hlimits .request).1⟩, hmodules, ?_⟩
  obtain ⟨_, _, analysis, -, -, -, -, hread, hreport⟩ :=
    hposted _ Session.packaged _ _ hmodules rfl
  have hsame : analysis = billingAnalysis :=
    Checked.ok.inj (hread.symm.trans (billingAnalysis.read_toJson .request))
  rw [hsame] at hreport
  exact hreport

/-- Not every boundary pattern is read back: one with an infinity in its sample comes back with null
in its place. -/
theorem not_rereads_boundary :
    Boundary.Pattern.read .document limitsObject
        = .ok (limitsPattern (.float (.infinite false))) ∧
      Boundary.Pattern.read .document (limitsPattern (.float (.infinite false))).toJson
        = .ok (limitsPattern .null) ∧
      ¬ Rereads Boundary.Pattern.read Boundary.Pattern.toJson := by
  have hread : Boundary.Pattern.read .document limitsObject
      = .ok (limitsPattern (.float (.infinite false))) := rfl
  have hblank : Boundary.Pattern.read .document (limitsPattern (.float (.infinite false))).toJson
      = .ok (limitsPattern .null) := rfl
  refine ⟨hread, hblank, ?_⟩
  intro hsame
  have hreread := hsame .document limitsObject _ hread .document
  rw [hblank] at hreread
  cases Checked.ok.inj hreread

end Rigor
