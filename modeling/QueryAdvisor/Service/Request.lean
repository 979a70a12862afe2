import QueryAdvisor.Advice
import QueryAdvisor.Json.Bytes
import QueryAdvisor.Json.Wire
import QueryAdvisor.Number.Lenient
import QueryAdvisor.Plan.Acquisition
import QueryAdvisor.Service.Address
import QueryAdvisor.Text.Upper

/-!
# Requests

A request is routed by its path and its method. Three of the endpoints take a body, an object with the
query under `query`; one takes a limit. What does not fit is answered before anything else happens.
-/

namespace QueryAdvisor

/-- A request, and how the model and the sandbox behave while it is served. -/
structure Request where
  method : Text
  /-- What is asked for: a path, perhaps with parameters behind it. -/
  address : Text
  body : Bytes := []
  model : ModelBehaviour
  sandbox : Sandbox

/-! ### Routing -/

/-- What the service offers. -/
inductive Endpoint where
  | health
  | analyses
  | validate
  | explain
  | recent
  | clear
  | examples
  deriving DecidableEq, Repr

namespace Endpoint

def all : List Endpoint := [.health, .analyses, .validate, .explain, .recent, .clear, .examples]

def path : Endpoint → Text
  | .health => "/health"
  | .analyses => "/v1/query-analyses"
  | .validate => "/v1/validate"
  | .explain => "/v1/explain"
  | .recent => "/v1/history/recent"
  | .clear => "/v1/history"
  | .examples => "/v1/examples"

def method : Endpoint → Text
  | .health | .recent | .examples => "GET"
  | .analyses | .validate | .explain => "POST"
  | .clear => "DELETE"

/-- The endpoint at a path. -/
def at? (path : Text) : Option Endpoint := all.find? fun e => e.path == path

/-- The path without a line feed at its end. -/
def withoutLineEnd (path : Text) : Text :=
  if path.getLast? = some CodePoint.lineFeed then path.dropLast else path

/-- The endpoint that a path leads to. A line feed at its end and slashes behind it do not matter. -/
def ofPath? (path : Text) : Option Endpoint :=
  at? (withoutLineEnd path) <|> at? (withoutLineEnd (Text.dropEnd (· = Address.slash) path))

theorem at?_path (e : Endpoint) : at? e.path = some e := by cases e <;> decide +kernel

end Endpoint

/-- Where a request goes. -/
inductive Route where
  | endpoint (e : Endpoint)
  | wrongMethod
  | unknownPath
  deriving DecidableEq, Repr

/-- Where a request with this method and path goes; methods are not sensitive to case. -/
def Route.of (method path : Text) : Route :=
  match Endpoint.ofPath? path with
  | none => .unknownPath
  | some e => if Text.upper method = e.method then .endpoint e else .wrongMethod

/-! ### Bodies -/

/-- What does not fit in a request. -/
inductive RequestFault where
  /-- There is no body. -/
  | missingBody
  | malformedJson
  | notAnObject
  | missingQuery
  | queryNotAString
  | limitMalformed
  /-- The limit has too many digits. -/
  | limitTooLong
  deriving DecidableEq, Repr

/-- What comes of the body of a request. -/
inductive BodyResult where
  /-- The query. -/
  | query (t : Text)
  /-- The body does not fit; the part that does not is shown to the client. -/
  | misfit (fault : RequestFault) (shown : Json)
  /-- The body cannot be read, for a reason other than its grammar. -/
  | unreadable
  deriving BEq, Repr

/-- The query in the body of a request. -/
def BodyResult.ofBytes (body : Bytes) : BodyResult :=
  if body.isEmpty then .misfit .missingBody .null
  else
    match Json.ofBytes body with
    | .error .malformed => .misfit .malformedJson (.obj [])
    | .error _ => .unreadable
    | .ok (.obj members) =>
      match Members.get? "query" members with
      | none => .misfit .missingQuery (.obj members)
      | some (.str t) => .query t
      | some v => .misfit .queryNotAString v
    | .ok v => .misfit .notAnObject v

/-- The limit in an address: none if there is no such parameter. -/
def Address.limit? (address : Address) : Except RequestFault (Option Int) :=
  match address.parameter? "limit" with
  | none => .ok none
  | some t =>
    match Number.whole t with
    | .ok n => .ok (some n)
    | .error .malformed => .error .limitMalformed
    | .error .tooLong => .error .limitTooLong

end QueryAdvisor
