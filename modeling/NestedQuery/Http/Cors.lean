import NestedQuery.Http.Message

/-!
# Cross-origin access

Without configured origins every origin may read the answers.  Configured
origins are compared with the origin of the request as they are; one that is no
legal header value is never matched and is dropped.  A wildcard cannot stand in
a list of origins.
-/

namespace NestedQuery.Http

inductive Origins
  | any
  | listed (origins : List String)
  deriving DecidableEq

namespace Origins

/-- The policy for a list of configured origins, unless it lists the
wildcard. -/
def ofList? (configured : List String) : Option Origins :=
  if configured.isEmpty then some .any
  else
    let origins := configured.filter isHeaderValue
    if origins.contains "*" then none else some (.listed origins)

/-- The origin a response admits. -/
def allowed? (policy : Origins) (request : Request) : Option String :=
  match policy with
  | .any => some "*"
  | .listed origins =>
      match request.header? "origin" with
      | some origin => if origins.contains origin then some origin else none
      | none => none

/-- The headers of every response. -/
def headers (policy : Origins) (request : Request) : List (String × String) :=
  ("vary", "origin, access-control-request-method, access-control-request-headers") ::
    match policy.allowed? request with
    | some origin => [("access-control-allow-origin", origin)]
    | none => []

/-- The headers that answer a preflight. -/
def preflightHeaders : List (String × String) :=
  [("access-control-allow-methods", "GET,POST,OPTIONS"),
    ("access-control-allow-headers", "content-type")]

end Origins

end NestedQuery.Http
