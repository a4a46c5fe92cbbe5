import Rigor.Service.Http

/-!
# Routes

`Route.table` lists the endpoints of the service with their methods and paths. The path of a route
either has to be met in full, where one line feed may follow it, or leaves a last segment open,
which is any text without a slash. `dispatch` finds the endpoint of a request; a path that is known
but for the slashes at its end is redirected.
-/

namespace Rigor.Service

/-- What a request asks for. -/
inductive Endpoint where
  | inferSchema
  | emitSchema
  | listLevels
  | level (rank : String)
  | listCategories
  | riskStats
  | category (name : String)
  | analyzeRisk
  | analyzeModules
  | coverage
  | formatErrors
  | listBoundaries
  | boundary (key : String)
  | root
  | health
  /-- The pages that describe the service. -/
  | manual
  deriving DecidableEq, Repr

/-- A path of the service. -/
inductive PathForm where
  /-- The path alone. -/
  | fixed (path : String) (endpoint : Endpoint)
  /-- A path up to its last segment, which is open. -/
  | withSegment (path : String) (endpoint : String → Endpoint)

/-- The endpoint of a path of the given form. -/
def PathForm.endpoint? (form : PathForm) (path : List Char) : Option Endpoint :=
  match form with
  | .fixed expected endpoint =>
    if path = expected.toList ∨ path = expected.toList ++ ['\n'] then some endpoint else none
  | .withSegment start endpoint =>
    match start.toList.isPrefixOf path, path.drop start.toList.length with
    | true, c :: rest =>
      if (c :: rest).contains '/' then none else some (endpoint (String.ofList (c :: rest)))
    | _, _ => none

/-- A method and a path. -/
structure Route where
  /-- The method. -/
  method : String
  /-- The path. -/
  form : PathForm

/-- The paths of the pages that describe the service. -/
def manualPaths : List String :=
  ["/openapi.json", "/docs", "/docs/oauth2-redirect", "/redoc"]

/-- The routes of the pages that describe the service. -/
def Route.manual : List Route :=
  manualPaths.flatMap fun path =>
    [⟨"GET", .fixed path .manual⟩, ⟨"HEAD", .fixed path .manual⟩]

/-- The routes of the service. -/
def Route.table : List Route :=
  Route.manual ++
  [⟨"POST", .fixed "/v1/schemas/infer" .inferSchema⟩,
   ⟨"POST", .fixed "/v1/schemas/emit" .emitSchema⟩,
   ⟨"GET", .fixed "/v1/levels" .listLevels⟩,
   ⟨"GET", .withSegment "/v1/levels/" .level⟩,
   ⟨"GET", .fixed "/v1/risks/categories" .listCategories⟩,
   ⟨"GET", .fixed "/v1/risks/stats" .riskStats⟩,
   ⟨"GET", .withSegment "/v1/risks/categories/" .category⟩,
   ⟨"POST", .fixed "/v1/risks/analyze" .analyzeRisk⟩,
   ⟨"POST", .fixed "/v1/reports/analyze" .analyzeModules⟩,
   ⟨"POST", .fixed "/v1/reports/coverage" .coverage⟩,
   ⟨"POST", .fixed "/v1/validation/format" .formatErrors⟩,
   ⟨"GET", .fixed "/v1/boundaries" .listBoundaries⟩,
   ⟨"GET", .withSegment "/v1/boundaries/" .boundary⟩,
   ⟨"GET", .fixed "/" .root⟩,
   ⟨"GET", .fixed "/health" .health⟩]

/-- Where a request leads. -/
inductive Dispatch where
  | found (endpoint : Endpoint)
  /-- The path is known, but not with this method. -/
  | wrongMethod
  /-- The path is known once the slashes at its end are dropped, or one is added if it has none. -/
  | redirect
  | unknown
  deriving DecidableEq, Repr

/-- The path without the slashes at its end, or with one if it has none. -/
def toggleSlash (path : List Char) : List Char :=
  if path.getLast? = some '/' then (path.reverse.dropWhile (· == '/')).reverse
  else path ++ ['/']

/-- The path is that of some route. -/
def isKnown (path : List Char) : Bool :=
  Route.table.any fun route => (route.form.endpoint? path).isSome

/-- Where a request with the given method and path leads. -/
def dispatch (method : String) (path : List Char) : Dispatch :=
  match Route.table.findSome? fun route =>
      if route.method = method then route.form.endpoint? path else none with
  | some endpoint => .found endpoint
  | none =>
    if isKnown path then .wrongMethod
    else if isKnown (toggleSlash path) then .redirect
    else .unknown

end Rigor.Service
