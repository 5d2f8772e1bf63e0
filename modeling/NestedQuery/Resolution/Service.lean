import NestedQuery.Log.Recorder
import NestedQuery.Resolution.Execution
import NestedQuery.Resolution.Request

/-!
# Resolution

A resolution validates the filter, resolves the sort, plans and executes.  It is
bracketed by two entries, the second of which says how it ended.  A resolution
may be dropped after its first poll, while its answers are pending.
-/

namespace NestedQuery

/-- What a resolver works with: the schema, the client, the milliseconds its
clock shows for an operation, and when waiting polls are asked for again. -/
structure Service where
  schema : Schema
  answer : Answer
  elapsed : String := "0"
  resumption : Resumption := .afterPoll

namespace Service

/-- Counts and logs a rejection. -/
def reject {A : Type} (why : Rejection) : Traced (Except Rejection A) := do
  Traced.count { filtersRejected := 1 }
  Traced.log ⟨.warn, Log.Event.filterRejected.name,
    [("code", why.code), ("reason", why.message)]⟩
  return .error why

/-- Validates a filter and a sort and plans them, without any query. -/
def plan (service : Service) (filter : Option Filter) (sort : Option SortRequest)
    (limit : Nat) : Traced (Except Rejection Plan) :=
  match service.schema.validate filter with
  | .error why => reject why
  | .ok () =>
      match service.schema.resolveSort sort with
      | .error why => reject why
      | .ok sort => return .ok (.build limit sort filter)

/-- Reads the filter of a request and plans it, without any query. -/
def explain (service : Service) (request : ResolveRequest) (default : Nat) :
    Traced (Except Rejection Plan) := do
  match service.schema.readFilter request.filter with
  | .error why => reject why
  | .ok filter =>
      let limit := request.limit default
      match ← service.plan filter request.sort limit with
      | .error why => return .error why
      | .ok plan =>
          Traced.log (Log.Event.explainComplete.entry
            [("max_nesting_level", toString limit),
              ("remote_calls", toString plan.remoteCalls)])
          return .ok plan

/-- The scope of a resolution. -/
def scope (limit : Nat) : Log.Scope :=
  ⟨"RESOLVE", [("max_nesting_level", toString limit)]⟩

/-- Opens a resolution and plans it.  A rejection closes it. -/
def start (service : Service) (filter : Option Filter) (sort : Option SortRequest)
    (limit : Nat) : Traced (Except Rejection Plan) := do
  Traced.log (scope limit).opening
  match ← service.plan filter sort limit with
  | .error why =>
      Traced.log ((scope limit).closing (.fail why.message true))
      return .error why
  | .ok plan => return .ok plan

/-- Closes a resolution whose plan has been executed. -/
def finish (service : Service) (limit : Nat) (plan : Plan)
    (result : Except RemoteError (List Record)) :
    Traced (Except ResolveError (List Record)) :=
  match result with
  | .error error => do
      Traced.log ((scope limit).closing (.fail error.message false))
      return .error (.remote error)
  | .ok records => do
      Traced.count
        { resolutions := 1, recordsReturned := records.length.toUInt64 }
      Traced.log ((scope limit).closing (.complete service.elapsed
        [("records", toString records.length),
          ("remote_calls", toString plan.remoteCalls)]))
      return .ok records

/-- Resolves a filter and an optional sort. -/
def resolve (service : Service) (filter : Option Filter)
    (sort : Option SortRequest) (limit : Nat) :
    Traced (Except ResolveError (List Record)) := do
  match ← service.start filter sort limit with
  | .error why => return .error (.rejected why)
  | .ok plan =>
      service.finish limit plan
        (← plan.execute service.answer service.resumption)

/-- Starts a resolution and drops it after its first poll, unless that poll has
ended it. -/
def cancel (service : Service) (filter : Option Filter)
    (sort : Option SortRequest) (limit : Nat) :
    Traced (Except ResolveError (Option (List Record))) := do
  match ← service.start filter sort limit with
  | .error why => return .error (.rejected why)
  | .ok plan =>
      match ← plan.launch service.answer service.resumption with
      | .finished result =>
          return (← service.finish limit plan result).map some
      | _ =>
          Traced.log ((scope limit).closing .drop)
          return .ok none

/-- Reads the filter of a request and resolves it. -/
def resolveRequest (service : Service) (request : ResolveRequest) (default : Nat) :
    Traced (Except ResolveError (List Record)) := do
  match service.schema.readFilter request.filter with
  | .error why => return (← reject why).mapError .rejected
  | .ok filter => service.resolve filter request.sort (request.limit default)

end Service

end NestedQuery
