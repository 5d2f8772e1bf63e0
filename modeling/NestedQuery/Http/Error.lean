import NestedQuery.Http.Message
import NestedQuery.Json.Printer
import NestedQuery.Json.Source
import NestedQuery.Resolution.Request

/-!
# Failed requests

A request fails because of its body, because of its target, or because its
resolution failed; in the last case the status tells the caller's faults from
those of the remote service.
-/

namespace NestedQuery.Http

/-- Why a request body is refused. -/
inductive BodyFlaw
  | notJsonType
  | tooLong
  | fault (kind : Json.Fault)
  /-- A reason given in words. -/
  | stated (reason : String)
  deriving DecidableEq

def BodyFlaw.message : BodyFlaw → String
  | .notJsonType => "Expected request with `Content-Type: application/json`"
  | .tooLong => "Failed to buffer the request body: length limit exceeded"
  | .fault .malformed => "Failed to parse the request body as JSON"
  | .fault .mismatched => "Failed to deserialize the JSON body into the target type"
  | .stated reason => reason

inductive RequestError
  | resolution (error : ResolveError)
  | invalidBody (flaw : BodyFlaw)
  | notFound
  deriving DecidableEq

namespace RequestError

def status : RequestError → Nat
  | .resolution error => if error.isCallers then 400 else 502
  | .invalidBody _ => 400
  | .notFound => 404

def code : RequestError → String
  | .resolution error => error.code
  | .invalidBody _ => "FLATQUERY_API_INVALID_BODY"
  | .notFound => "FLATQUERY_API_NOT_FOUND"

def display : RequestError → String
  | .resolution error => error.display
  | .invalidBody flaw => "Invalid request body: " ++ flaw.message
  | .notFound => "Resource not found"

/-- What the caller is told; the code stands apart. -/
def message : RequestError → String
  | .resolution (.rejected why) => why.message
  | error => error.display

def body (error : RequestError) : String :=
  (Json.object [("error", .string error.message), ("code", .string error.code)]).render

end RequestError

namespace Response

def ofJson (status : Nat) (body : String) : Response :=
  ⟨status, [("content-type", "application/json")], body⟩

def ofError (error : RequestError) : Response :=
  ofJson error.status error.body

end Response

end NestedQuery.Http
