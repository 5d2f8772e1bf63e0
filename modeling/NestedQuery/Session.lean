import NestedQuery.Command.OneShot
import NestedQuery.Resolution.Service

/-!
# Sessions

A session is a run of operations on one service.  Its state is the total of the
effects so far: the queries the client has received, the counters and the
entries logged.  No operation reads that state, so an operation gives the same
result and adds the same effects wherever it stands in a session.
-/

namespace NestedQuery

inductive Operation
  | resolve (filter : Option Filter) (sort : Option SortRequest) (limit : Nat)
  /-- Starts a resolution and drops it while queries are pending.  One who means to
  drop it polls it by hand, so unless it is said otherwise its waiting polls are asked
  for again at once. -/
  | cancel (filter : Option Filter) (sort : Option SortRequest) (limit : Nat)
      (resumption : Resumption := .duringPoll)
  | plan (filter : Option Filter) (sort : Option SortRequest) (limit : Nat)
  | resolveRequest (request : ResolveRequest) (default : Nat)
  | explain (request : ResolveRequest) (default : Nat)
  | runQuery (input : ByteArray) (default : Nat)
  | runExplain (input : ByteArray) (default : Nat)

/-- What an operation gives. -/
inductive Outcome
  | records (records : List Record)
  | cancelled
  | plan (plan : Plan)
  | printed (text : String)
  /-- A resolution failed. -/
  | failed (error : ResolveError)
  /-- A command failed. -/
  | aborted (error : Command.CommandError)

namespace Outcome

def ofPlan : Except Rejection Plan → Outcome
  | .ok made => .plan made
  | .error why => .failed (.rejected why)

def ofRecords : Except ResolveError (List Record) → Outcome
  | .ok found => .records found
  | .error error => .failed error

def ofText : Except Command.CommandError String → Outcome
  | .ok text => .printed text
  | .error error => .aborted error

def ofCancelled : Except ResolveError (Option (List Record)) → Outcome
  | .ok none => .cancelled
  | .ok (some found) => .records found
  | .error error => .failed error

end Outcome

def Service.perform (service : Service) : Operation → Traced Outcome
  | .resolve filter sort limit =>
      return .ofRecords (← service.resolve filter sort limit)
  | .cancel filter sort limit resumption =>
      let service := { service with resumption }
      return .ofCancelled (← service.cancel filter sort limit)
  | .plan filter sort limit =>
      return .ofPlan (← service.plan filter sort limit)
  | .resolveRequest request default =>
      return .ofRecords (← service.resolveRequest request default)
  | .explain request default =>
      return .ofPlan (← service.explain request default)
  | .runQuery input default =>
      return .ofText (← Command.runQuery service default input)
  | .runExplain input default =>
      return .ofText (← Command.runExplain service default input)

/-- The effects so far after one more operation, and its outcome. -/
def Service.step (service : Service) (past : Effects) (operation : Operation) :
    Effects × Outcome :=
  let performed := service.perform operation
  (past ++ performed.effects, performed.value)

/-- The effects of a run of operations. -/
def Service.run (service : Service) (past : Effects) (operations : List Operation) :
    Effects :=
  operations.foldl (fun past operation => (service.step past operation).1) past

end NestedQuery
