import NestedQuery.Http.Message

/-!
# Routes

A path names a route exactly as it is written.  A route that is read admits GET
and, for the headers alone, HEAD; a route that takes a body admits POST.
-/

namespace NestedQuery.Http

inductive Route
  | health
  | metrics
  /-- Every record. -/
  | records
  /-- The records in the order of one property. -/
  | sorted
  /-- The records of a resolution request. -/
  | filtered
  deriving DecidableEq

namespace Route

def all : List Route := [.health, .metrics, .records, .sorted, .filtered]

def path : Route → String
  | .health => "/health"
  | .metrics => "/metrics"
  | .records => "/api"
  | .sorted => "/api/sort"
  | .filtered => "/api/sort-filter"

def ofPath? (path : String) : Option Route := all.find? (·.path == path)

/-- The methods a route answers. -/
def methods : Route → List String
  | .filtered => ["POST"]
  | _ => ["GET", "HEAD"]

/-- The header that lists the methods of a route. -/
def allow (route : Route) : String × String :=
  ("allow", ",".intercalate route.methods)

theorem ofPath?_path (route : Route) : ofPath? route.path = some route := by
  cases route <;> decide

end Route

end NestedQuery.Http
