import QueryAdvisor.History
import QueryAdvisor.Service.Examples
import QueryAdvisor.Service.Request

/-!
# The service

Requests are served one after the other. What lasts from one to the next is the history of queries and
how often the clock has been read for it; everything else a request does is in its response: status and
body, and beside them the questions to the model, the statements to the sandbox, and the log.

A response that cannot be written, because of a surrogate alone or a number that is not finite, becomes
an internal error, and so does work that ends in a fault nobody is prepared for. What was done before it
stays done.
-/

namespace QueryAdvisor

/-- What the service finds around it. -/
structure Surroundings where
  /-- What the clock shows when it is read for the `n`-th time. -/
  clock : Nat → Double
  /-- The date and time in a report on the service's health. -/
  timestamp : Text

/-- What lasts from request to request. -/
structure Service where
  history : History
  ticks : Nat := 0

/-- The body of a response. -/
inductive ResponseBody where
  | json (v : Json)
  /-- The request does not fit. -/
  | misfits (faults : List RequestFault)
  deriving BEq, Repr

/-- What a request was answered, and what was done for it. -/
structure Response where
  status : Nat
  body : ResponseBody
  questions : List (List Message) := []
  connections : Nat := 0
  executed : List Text := []
  events : List Event := []

namespace Response

def ok (v : Json) : Response := { status := 200, body := .json v }

/-- A response with nothing but a detail. -/
def detail (status : Nat) (text : Text) : Response :=
  { status := status, body := .json (.object [("detail", .str text)]) }

def notFound : Response := detail 404 "Not Found"
def methodNotAllowed : Response := detail 405 "Method Not Allowed"
def unreadableBody : Response := detail 400 "There was an error parsing the body"

/-- The body of an answer to a query that violates the policy. -/
def rejectionBody (violation : Violation) : Json :=
  .object [("error", .text "Query validation failed"), ("reason", .text violation.reason),
    ("message", .str violation.message)]

/-- An answer to a query that violates the policy. -/
def rejection (violation : Violation) : Response :=
  { status := 400, body := .json (rejectionBody violation) }

/-- The response turned into an internal error; what was done for it stays. -/
def broken (path : Text) (response : Response) : Response :=
  { response with
    status := 500
    body := .json (.object [("error", .text "Internal server error")])
    events := response.events ++ [.unhandled path] }

/-- The response as it leaves the service. -/
def sent (path : Text) (response : Response) : Response :=
  match response.body with
  | .misfits _ => response
  | .json v =>
    if v.withoutReserved.isWritable then { response with body := .json v.withoutReserved }
    else response.broken path

/-- The answer to a request that does not fit. The client is shown what does not, so that has to be
written too. -/
def misfit (path : Text) (fault : RequestFault) (shown : Json) : Response :=
  let response : Response := { status := 422, body := .misfits [fault] }
  if shown.withoutReserved.isWritable then response else response.broken path

end Response

namespace Service

/-! ### Queries -/

/-- An advisory check. -/
def validate (query : Text) : Response :=
  match Policy.check query with
  | none => .ok (.object [("ok", .bool true), ("reason", .null), ("message", .null)])
  | some v =>
    .ok (.object [("ok", .bool false), ("reason", .text v.reason), ("message", .str v.message)])

/-- The history with a query added, and what went wrong. -/
def remember (around : Surroundings) (service : Service) (query : Text) : Service × List Event :=
  let (history, outcome) := service.history.add (some query) (around.clock service.ticks)
  let ticks := if service.history.canStore (some query) then service.ticks + 1 else service.ticks
  ({ history := history, ticks := ticks },
    match outcome with
    | .ok _ => []
    | .error _ => [.historyFailed])

/-- Analyze a query and remember it. Without an analysis there is nothing to remember. -/
def analyze (around : Surroundings) (model : ModelBehaviour) (service : Service) (query : Text) :
    Service × Response :=
  let advice := Advice.analyze model query
  match advice.result with
  | .error (.rejected violation) =>
    (service, { Response.rejection violation with events := advice.events })
  | .error (.unread _) =>
    let response : Response := { Response.ok .null with
      questions := advice.questions
      events := advice.events }
    (service, response.broken Endpoint.analyses.path)
  | .ok analysis =>
    let (service, events) := remember around service query
    (service,
      { status := 200, body := .json analysis.toJson, questions := advice.questions
        events := advice.events ++ events })

/-- The body of an answer that tells why there is no plan. -/
def noPlanBody (message : Text) : Json := .object [("ok", .bool false), ("error", .str message)]

/-- The body of an answer with a plan. -/
def planBody (plan : ExecutionPlan) : Json := .object [("ok", .bool true), ("plan", plan.toJson)]

/-- The answer to an attempt to get a plan. A fault that is no fault of the query or the sandbox is an
internal error. -/
def answerPlan (outcome : Except PlanFault ExecutionPlan) : Response :=
  match outcome with
  | .ok plan => .ok (planBody plan)
  | .error (.rejected violation) => .rejection violation
  | .error fault =>
    match fault.message? with
    | some message => { Response.ok (noPlanBody message) with events := [.planUnavailable message] }
    | none => (Response.ok .null).broken Endpoint.explain.path

/-- Explain a query. -/
def explain (sandbox : Sandbox) (query : Text) : Response :=
  let acquisition := Acquisition.fromSandbox sandbox query
  let response := answerPlan acquisition.outcome
  { response with
    connections := acquisition.connections
    executed := acquisition.executed
    events := acquisition.events ++ response.events }

/-! ### History -/

def rowToJson (row : HistoryRow) : Json :=
  .object [("query", .ofText? row.query), ("ts", .float row.time)]

/-- The queries analyzed last. -/
def recent (service : Service) (limit : Option Int) : Response :=
  match service.history.recent limit with
  | .ok rows => .ok (.object [("ok", .bool true), ("items", .arr (rows.map rowToJson))])
  | .error fault =>
    .ok (.object [("ok", .bool false), ("error", .str (Event.clip fault.message))])

/-- Forget the queries. -/
def clear (service : Service) : Service × Response :=
  match service.history.clear with
  | (history, .ok ()) => ({ service with history := history }, .ok (.object [("ok", .bool true)]))
  | (history, .error _) =>
    ({ service with history := history }, (Response.ok .null).broken Endpoint.clear.path)

/-- Close the history under the running service. -/
def closeHistory (service : Service) : Service := { service with history := service.history.close }

/-! ### All endpoints -/

def health (around : Surroundings) : Response :=
  .ok (.object [("status", .text "ok"), ("timestamp", .str around.timestamp)])

def examples : Response :=
  .ok (.object [("ok", .bool true), ("items", .arr (ExampleQuery.all.map ExampleQuery.toJson))])

/-- Serve a request that carries a query. -/
def withQuery (endpoint : Endpoint) (request : Request) (service : Service)
    (serve : Text → Service × Response) : Service × Response :=
  match BodyResult.ofBytes request.body with
  | .query t => serve t
  | .misfit fault shown => (service, .misfit endpoint.path fault shown)
  | .unreadable => (service, .unreadableBody)

/-- Serve a request at an endpoint. -/
def serveAt (around : Surroundings) (service : Service) (request : Request) (address : Address) :
    Endpoint → Service × Response
  | .health => (service, health around)
  | .examples => (service, examples)
  | .validate => withQuery .validate request service fun query => (service, validate query)
  | .analyses =>
    withQuery .analyses request service fun query => analyze around request.model service query
  | .explain =>
    withQuery .explain request service fun query => (service, explain request.sandbox query)
  | .recent =>
    match address.limit? with
    | .ok limit => (service, recent service limit)
    | .error fault =>
      (service, .misfit Endpoint.recent.path fault (.ofText? (address.parameter? "limit")))
  | .clear => clear service

/-- Serve a request. -/
def serve (around : Surroundings) (service : Service) (request : Request) : Service × Response :=
  let address := Address.ofText request.address
  match Route.of request.method address.path with
  | .unknownPath => (service, .notFound)
  | .wrongMethod => (service, .methodNotAllowed)
  | .endpoint e =>
    let (service, response) := serveAt around service request address e
    (service, response.sent e.path)

/-- Serve requests one after the other. -/
def serveAll (around : Surroundings) (service : Service) : List Request → Service × List Response
  | [] => (service, [])
  | request :: rest =>
    let (service, response) := serve around service request
    let (service, responses) := serveAll around service rest
    (service, response :: responses)

end Service

end QueryAdvisor
