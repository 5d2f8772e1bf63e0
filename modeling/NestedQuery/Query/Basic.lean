import NestedQuery.Query.Record
import NestedQuery.Sort

/-!
# Queries

A query is what one remote call carries: a filter and at most one sort.  The
remote service answers with a page or fails, and a failure is passed on
unchanged.
-/

namespace NestedQuery

structure Query where
  filter : Option Filter := none
  sorts : List ResolvedSort := []
  deriving DecidableEq

namespace Query

def ofSort (filter : Option Filter) (sort : Option ResolvedSort) : Query :=
  ⟨filter, sort.toList⟩

/-- Absent parts are left out. -/
def toJson (query : Query) : Json :=
  let filter :=
    match query.filter with
    | some filter => [("filter", filter.toJson)]
    | none => []
  let sorts :=
    match query.sorts with
    | [] => []
    | sorts => [("sorts", .array (sorts.map ResolvedSort.toJson))]
  .object (filter ++ sorts)

end Query

/-- Why a remote call failed. -/
inductive RemoteError
  /-- The query could not be sent or the connection failed. -/
  | transport (detail : String)
  /-- The service answered with a status other than success. -/
  | status (status : Nat) (body : String)
  /-- The answer was no page. -/
  | decode (detail : String)
  /-- The client refused the query. -/
  | rejected (detail : String)
  deriving DecidableEq

namespace RemoteError

def code : RemoteError → String
  | .transport _ => "FLATQUERY_REMOTE_TRANSPORT"
  | .status _ _ => "FLATQUERY_REMOTE_STATUS"
  | .decode _ => "FLATQUERY_REMOTE_DECODE"
  | .rejected _ => "FLATQUERY_REMOTE_REJECTED"

def message : RemoteError → String
  | .transport detail => "Remote query transport failed: " ++ detail
  | .status number body =>
      "Remote query failed with status " ++ toString number ++ ": " ++ body
  | .decode detail => "Remote query returned an undecodable body: " ++ detail
  | .rejected detail => "Remote query rejected: " ++ detail

end RemoteError

/-- What becomes of a query that is handed to a client. -/
inductive Delivery
  /-- The client refuses the query at once. -/
  | refused (error : RemoteError)
  /-- The client sends the query, and its answer comes later. -/
  | sent (answer : Except RemoteError Page)

/-- What a query comes to in the end. -/
def Delivery.outcome : Delivery → Except RemoteError Page
  | .refused error => .error error
  | .sent answer => answer

/-- What a client does with a query. -/
abbrev Answer := Query → Delivery

end NestedQuery
