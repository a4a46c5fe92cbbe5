import Rigor.Boundary.Packaged
import Rigor.Boundary.Library
import Rigor.Diagnostic
import Rigor.Level.Packaged
import Rigor.Report.Analyze
import Rigor.Report.Coverage
import Rigor.Risk.Packaged
import Rigor.Schema.Expression
import Rigor.Schema.Reader
import Rigor.Service.Echo
import Rigor.Service.Route

/-!
# The service

A session holds the three registries that the requests to the service share.

* `Session.startUp`: what the service does before its first request and after its last one.
* `Session.handle`: the response to a request. The body of a request is checked as a whole before
  the endpoint acts; all its issues are reported.
-/

namespace Rigor.Service

open Check

/-- The registries of a running service. -/
structure Session where
  /-- The catalog of levels. -/
  levels : Level.Catalog
  /-- The risk table. -/
  risks : Risk.Register
  /-- The boundary patterns. -/
  boundaries : Boundary.Library

/-- A session on the given definition files, none of which has been read. -/
def Session.fresh (levels risks boundaries : DefinitionFile) : Session :=
  ⟨Registry.fresh levels, Registry.fresh risks, Registry.fresh boundaries⟩

/-- A session on the packaged definitions. -/
def Session.packaged : Session :=
  Session.fresh Level.packaged Risk.packaged Boundary.packaged

variable {α β : Type}

/-- An action on the catalog of levels. -/
def onLevels (act : Act Level.Catalog α) : Act Session α :=
  Act.within Session.levels (fun s levels => { s with levels := levels }) act

/-- An action on the risk table. -/
def onRisks (act : Act Risk.Register α) : Act Session α :=
  Act.within Session.risks (fun s risks => { s with risks := risks }) act

/-- An action on the boundary patterns. -/
def onBoundaries (act : Act Boundary.Library α) : Act Session α :=
  Act.within Session.boundaries (fun s boundaries => { s with boundaries := boundaries }) act

/-! ### Responses -/

/-- A response with a body. -/
def ok (body : Json) : Response := ⟨200, body⟩

/-- A response that only says why there is no other. -/
def refuse (status : Nat) (detail : String) : Response :=
  ⟨status, .obj [("detail", .str detail)]⟩

/-- The response to a request with issues. It also carries back the values at fault, so that there
is none where one of them holds a number that JSON lacks. -/
def unprocessable (found : List Issue) : Act Session Response :=
  if found.all fun issue => (echo issue.value).isFinite then
    return ⟨422, .obj [("detail", .arr (found.map Issue.toJson))]⟩
  else
    Act.fail .notFinite

/-! ### Request bodies -/

/-- A request to emit a schema expression. -/
structure EmitRequest where
  /-- The sample. -/
  value : Json
  /-- Mark the objects as strict. -/
  strict : Bool

/-- A request for the schema of a sample. -/
def readInferRequest : Json → Checked Json :=
  record .request (required "value" .ok)

/-- A request to emit a schema expression, from an object. -/
def EmitRequest.read : Json → Checked EmitRequest :=
  record .request fun members =>
    EmitRequest.mk <$> required "value" .ok members <*> optional "strict" boolean false members

/-- A source text to classify, from an object. -/
def readRiskRequest : Json → Checked String :=
  record .request (required "code" text)

/-- A request to analyze modules. -/
structure AnalyzeRequest where
  /-- The modules. -/
  modules : List Report.ModuleSource
  /-- The session they belong to. -/
  sessionId : String

/-- A request to analyze modules, from an object. -/
def AnalyzeRequest.read : Json → Checked AnalyzeRequest :=
  record .request fun members =>
    AnalyzeRequest.mk <$> optional "modules" (list (Report.ModuleSource.read .request)) [] members
      <*> optional "session_id" text Report.localSession members

/-- Diagnostics to format, from an object. -/
def readFormatRequest : Json → Checked (List Diagnostic) :=
  record .request (optional "errors" (list (Diagnostic.read .request)) [])

/-! ### Endpoints -/

/-- Respond to what a body holds, once it is checked. -/
def respondTo (outcome : Checked α) (act : α → Act Session Response) : Act Session Response :=
  match outcome.under (.key "body") with
  | .ok a => act a
  | .issues found => unprocessable found

/-- Respond to a body that passes its rule. -/
def respond (payload : Payload) (rule : Json → Checked α) (act : α → Act Session Response) :
    Act Session Response :=
  match payload with
  | .empty => respondTo (.fail .missing .null) act
  | .undecodable => return refuse 400 "There was an error parsing the body"
  | .malformed => respondTo (.fail .notJson (.obj [])) act
  | .json value => respondTo (rule value) act

/-- The schema of a sample and its expression. -/
def schemaAnswer (schema : Schema) : Json :=
  .obj [("inferred", schema.toJson), ("expression", .str schema.render)]

/-- The schema expression of a sample; the elements of an array are counted in the log. -/
def emitSchema (request : EmitRequest) : Act Session Response := do
  let sample := Sample.ofJson request.value
  match sample with
  | .arr (item :: rest) =>
    Act.log .debug ("Array sample of " ++ Text.decimal (item :: rest).length ++ " items has "
      ++ Text.decimal (Sample.elementTexts request.strict (item :: rest)).length
      ++ " distinct element schemas")
  | _ => pure ()
  return ok (.obj [("schema", .str (sample.emit request.strict))])

/-- The definition of a level given by the text of its rank. -/
def level (rank : String) : Act Session Response :=
  match integer (.str rank) with
  | .issues found =>
    unprocessable (found.map fun issue => (issue.under (.key "level")).under (.key "path"))
  | .ok n =>
    match Level.ofRank? n with
    | none => return refuse 404 ("Level " ++ Text.decimal n ++ " not found")
    | some level => do
      match ← onLevels (Level.Catalog.get level) with
      | some definition => return ok definition.toJson
      | none => return refuse 404 ("Level " ++ Text.decimal n ++ " not defined")

/-- The pattern of a risk category given by its name. -/
def category (name : String) : Act Session Response :=
  match Risk.Category.ofName? name with
  | none => return refuse 404 ("Risk category '" ++ name ++ "' not found")
  | some category => do
    match ← onRisks (Risk.Register.get category) with
    | some pattern => return ok pattern.toJson
    | none => return refuse 404 ("Risk category '" ++ name ++ "' not defined")

/-- The boundary pattern of a key. -/
def boundary (key : String) : Act Session Response := do
  match ← onBoundaries (Boundary.Library.get key) with
  | some pattern => return ok pattern.toJson
  | none => return refuse 404 ("Boundary pattern '" ++ key ++ "' not found")

/-- The classification of a source text. -/
def analyzeRisk (code : String) : Act Session Response := do
  let level ← onRisks (Risk.Register.classify code)
  let description ← onLevels (Level.Catalog.consult (Level.describe · level))
  let tools ← onLevels (Level.Catalog.consult (Level.tools · level))
  let found ← onRisks (Risk.Register.find code)
  let risks ← onRisks (Risk.Register.risks code)
  return ok (.obj [("level", level.toJson), ("level_name", .str level.label),
    ("description", .str description), ("tools", .arr (tools.map .str)),
    ("matches", .arr (found.map Risk.Match.toJson)), ("risks", .arr (risks.map .str))])

/-- The report of an analysis. -/
def coverage (analysis : Report.Analysis) : Act Session Response := do
  let report ← onLevels (Report.coverage Report.packagedTemplate analysis)
  return ok (.obj [("session_id", .str analysis.sessionId), ("report", .str report)])

/-- The sizes of the registries. -/
def health : Act Session Response := do
  let levels ← onLevels Level.Catalog.count
  let risks ← onRisks Risk.Register.count
  let boundaries ← onBoundaries Boundary.Library.count
  return ok (.obj [("status", .str "healthy"), ("levels_loaded", .int levels),
    ("risk_categories_loaded", .int risks), ("boundary_patterns_loaded", .int boundaries)])

/-- What the service says of itself. -/
def greeting : Json :=
  .obj [("service", .str "Verification Ladder API"), ("version", .str "0.1.0"),
    ("description", .str "Static verification-rigor analysis"), ("docs", .str "/docs"),
    ("endpoints", .obj [("schemas", .str "/v1/schemas"), ("levels", .str "/v1/levels"),
      ("risks", .str "/v1/risks"), ("reports", .str "/v1/reports"),
      ("validation", .str "/v1/validation"), ("boundaries", .str "/v1/boundaries")])]

/-- The response of an endpoint. The pages that describe the service are written elsewhere and
stand here as null. -/
def serve (payload : Payload) : Endpoint → Act Session Response
  | .inferSchema => respond payload readInferRequest fun value =>
    return ok (schemaAnswer (Sample.ofJson value).infer)
  | .emitSchema => respond payload EmitRequest.read emitSchema
  | .listLevels => do
    let summaries ← onLevels (Level.Catalog.consult Level.summaries)
    return ok (.arr (summaries.map Level.Summary.toJson))
  | .level rank => level rank
  | .listCategories => do
    return ok (.arr ((← onRisks Risk.Register.list).map Risk.Pattern.toJson))
  | .riskStats => do
    return ok (← onRisks Risk.Register.stats).toJson
  | .category name => category name
  | .analyzeRisk => respond payload readRiskRequest analyzeRisk
  | .analyzeModules => respond payload AnalyzeRequest.read fun request => do
    return ok (← onRisks (Report.analyzeModules request.sessionId request.modules)).toJson
  | .coverage => respond payload (Report.Analysis.read .request) coverage
  | .formatErrors => respond payload readFormatRequest fun diagnostics =>
    return ok (.obj [("count", .int diagnostics.length),
      ("formatted", .str (Diagnostic.format diagnostics))])
  | .listBoundaries => do
    return ok (.arr ((← onBoundaries Boundary.Library.list).map Boundary.Pattern.toJson))
  | .boundary key => boundary key
  | .root => return ok greeting
  | .manual => return ok .null
  | .health => health

/-- The response to a request. -/
def Session.handle (request : Request) : Act Session Response :=
  match dispatch request.method request.path with
  | .found endpoint => serve request.payload endpoint
  | .wrongMethod => return refuse 405 "Method Not Allowed"
  | .redirect => return ⟨307, .null⟩
  | .unknown => return refuse 404 "Not Found"

/-- Read all definitions, and report that the service is ready and, in the end, shut down. -/
def Session.startUp : Act Session Unit := do
  Act.log .info "Loading verification level catalog..."
  let levels ← onLevels Level.Catalog.count
  Act.log .info ("Loaded " ++ Text.decimal levels ++ " levels")
  Act.log .info "Loading risk pattern table..."
  let stats ← onRisks Risk.Register.stats
  Act.log .info ("Loaded " ++ Text.decimal stats.categories ++ " risk categories, "
    ++ Text.decimal stats.keywords ++ " keywords")
  Act.log .info "Loading boundary patterns..."
  let boundaries ← onBoundaries Boundary.Library.count
  Act.log .info ("Loaded " ++ Text.decimal boundaries ++ " boundary patterns")
  Act.log .info "Verification Ladder API ready"
  Act.log .info "Shutting down Verification Ladder API"

end Rigor.Service
