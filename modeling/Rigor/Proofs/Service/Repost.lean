import Rigor.Proofs.Level.Answers
import Rigor.Proofs.Model.Written
import Rigor.Proofs.Report.Layout
import Rigor.Proofs.Risk.Answers
import Rigor.Service.Session

/-!
# Analyses that are posted back

The service answers an analysis of modules with an object that it accepts as the body of a request
for a report. The report is that of the analysis made, whatever session it is asked of.

* `exists_of_respond`: a successful response to a body is that of the endpoint to what the body
  holds, for refusals have other status codes.
* `exists_analysis`, `result_postModules`: the response to `postModules` is the analysis that the
  risk register answers.
* `result_postAnalysis`: the response to `postAnalysis` is the report of the analysis posted.
-/

namespace Rigor.Service

open Check

variable {α : Type} {s : Session} {response : Response}

/-! ### Responses -/

/-- A request is handled by the endpoint that its method and path are dispatched to. -/
theorem handle_of_dispatch {request : Request} {endpoint : Endpoint}
    (h : dispatch request.method request.path = .found endpoint) :
    Session.handle request = serve request.payload endpoint := by
  rw [Session.handle, h]

/-- The response to a body with issues has the status for it. -/
theorem status_unprocessable {found : List Issue}
    (h : (unprocessable found s).result = .ok response) : response.status = 422 := by
  unfold unprocessable at h
  split at h
  · obtain rfl := Except.ok.inj h
    rfl
  · cases h

/-- A successful response is that of the action to an accepted body. -/
theorem exists_of_respondTo {outcome : Checked α} {act : α → Act Session Response}
    (h : (respondTo outcome act s).result = .ok response) (hstatus : response.status = 200) :
    ∃ a, outcome = .ok a ∧ (act a s).result = .ok response := by
  cases outcome with
  | ok a => exact ⟨a, rfl, h⟩
  | issues found =>
      have hunprocessable : response.status = 422 := status_unprocessable h
      omega

/-- A successful response to a body is that of the endpoint to what the body holds. -/
theorem exists_of_respond {payload : Payload} {rule : Json → Checked α}
    {act : α → Act Session Response} (h : (respond payload rule act s).result = .ok response)
    (hstatus : response.status = 200) :
    ∃ value a, payload = .json value ∧ rule value = .ok a ∧ (act a s).result = .ok response := by
  cases payload with
  | empty =>
      obtain ⟨a, hnone, -⟩ := exists_of_respondTo h hstatus
      cases hnone
  | undecodable =>
      obtain rfl := Except.ok.inj h
      cases hstatus
  | malformed =>
      obtain ⟨a, hnone, -⟩ := exists_of_respondTo h hstatus
      cases hnone
  | json value =>
      obtain ⟨a, hrule, hact⟩ := exists_of_respondTo h hstatus
      exact ⟨value, a, rfl, hrule, hact⟩

/-! ### Analyses -/

/-- The request for an analysis of modules. -/
def postModules (body : Payload) : Request :=
  ⟨"POST", "/v1/reports/analyze", body⟩

/-- The request for the report of an analysis. -/
def postAnalysis (body : Payload) : Request :=
  ⟨"POST", "/v1/reports/coverage", body⟩

/-- Modules that are posted are dispatched to the analysis. -/
theorem handle_postModules (body : Payload) :
    Session.handle (postModules body) = serve body .analyzeModules := by
  have hdispatch : dispatch "POST" (postModules .empty).path = .found .analyzeModules := by
    decide +kernel
  exact handle_of_dispatch hdispatch

/-- An analysis that is posted is dispatched to the report. -/
theorem handle_postAnalysis (body : Payload) :
    Session.handle (postAnalysis body) = serve body .coverage := by
  have hdispatch : dispatch "POST" (postAnalysis .empty).path = .found .coverage := by
    decide +kernel
  exact handle_of_dispatch hdispatch

/-- A successful response to modules is the analysis of these modules by the risk register. -/
theorem exists_analysis {body : Payload}
    (h : (Session.handle (postModules body) s).result = .ok response)
    (hstatus : response.status = 200) :
    ∃ value request analysis, body = .json value ∧ AnalyzeRequest.read value = .ok request ∧
      (Report.analyzeModules request.sessionId request.modules s.risks).result = .ok analysis ∧
      response.body = analysis.toJson := by
  rw [handle_postModules] at h
  obtain ⟨value, request, hbody, hread, hact⟩ := exists_of_respond h hstatus
  obtain ⟨analysis, hanalysis, hresponse⟩ := Act.bind_eq_ok.mp hact
  obtain rfl := Except.ok.inj hresponse
  exact ⟨value, request, analysis, hbody, hread, hanalysis, rfl⟩

/-- Modules that are posted are analyzed, if the risk table can be read. -/
theorem result_postModules {value : Json} {request : AnalyzeRequest} {rows : Risk.Rows}
    (hread : AnalyzeRequest.read value = .ok request)
    (hload : Registry.LoadsTo Risk.loader s.risks rows) :
    (Session.handle (postModules (.json value)) s).result
      = .ok (ok (Report.analysisIn rows request.sessionId request.modules).toJson) := by
  have hanalysis :
      (onRisks (Report.analyzeModules request.sessionId request.modules) s).result
        = .ok (Report.analysisIn rows request.sessionId request.modules) :=
    (Risk.answers_analyzeModules request.sessionId request.modules s.risks hload).1
  rw [handle_postModules]
  show (respondTo (AnalyzeRequest.read value) _ s).result = _
  rw [hread]
  exact Act.bind_eq_ok.mpr ⟨_, hanalysis, rfl⟩

/-- The rows of a session's catalog of levels, once it has been read. -/
def Session.levelRows (s : Session) : Level.Rows :=
  (Level.Catalog.load s.levels).state.rows

/-- The report that a session answers to an analysis. -/
def reportResponse (s : Session) (analysis : Report.Analysis) : Response :=
  ok (.obj [("session_id", .str analysis.sessionId),
    ("report", .str (Report.layout s.levelRows analysis))])

/-- An analysis that is posted is reported. -/
theorem result_postAnalysis (s : Session) (analysis : Report.Analysis) :
    (Session.handle (postAnalysis (.json analysis.toJson)) s).result
      = .ok (reportResponse s analysis) := by
  have hreport :
      (onLevels (Report.coverage Report.packagedTemplate analysis) s).result
        = .ok (Report.layout s.levelRows analysis) :=
    (Level.answers_coverage (Report.coverageIn_packagedTemplate _ analysis) s.levels
      (Level.loadsTo_load s.levels)).1
  have hread : Report.Analysis.read .request analysis.toJson = .ok analysis :=
    analysis.read_toJson .request
  rw [handle_postAnalysis]
  show (respondTo (Report.Analysis.read .request analysis.toJson) coverage s).result = _
  rw [hread]
  exact Act.bind_eq_ok.mpr ⟨_, hreport, rfl⟩

end Rigor.Service
