import NestedQuery.Log.Event
import NestedQuery.Query.Plan
import NestedQuery.Query.Record
import NestedQuery.Traced

/-!
# Execution

The queries of a plan are in flight at the same time.  Polling an execution
carries it on as far as it goes without waiting: a direct step is sent by its
first poll and gives its answer by the next, unless the client refuses it, which
ends the step at once; a merge step polls its children and merges when all of
them are done.

A narrow group polls every unfinished child on every poll, from left to right,
and ends with the first child that fails.  A wide group keeps a queue of the
children that are ready.  It polls those alone, and gives way when it has polled
as many children as were unfinished, or when two of them asked to be polled
again at once.  Its children may finish in any order, but their results count
from left to right, so a failure is held back until everything before it is
done.

A plan without wide groups, none of whose queries is refused, therefore sends
all of them from left to right before it looks at any answer, and then takes the
answers in the same order up to the first that failed.
-/

namespace NestedQuery

/-- When a poll that waits for an answer is asked for again: while it is still
running, or after it. -/
inductive Resumption
  | duringPoll
  | afterPoll
  deriving DecidableEq

inductive Execution
  | planned (plan : Plan)
  /-- The query has been sent. -/
  | waiting (answer : Except RemoteError Page)
  /-- The queue holds the positions of the children to poll, if the group is
  wide. -/
  | joining (op : BoolOp) (children : List Execution) (queue : List Nat)
  | finished (result : Except RemoteError (List Record))

namespace Execution

instance : Inhabited Execution := ⟨.finished (.ok [])⟩

def isFinished : Execution → Bool
  | .finished _ => true
  | _ => false

/-- The largest number of children a narrow group has. -/
def narrowLimit : Nat := 30

def isWide {A : Type} (children : List A) : Bool := narrowLimit < children.length

/-- The records of the children, if all of them have some. -/
def results? : List Execution → Option (List (List Record))
  | [] => some []
  | .finished (.ok records) :: rest => (results? rest).map (records :: ·)
  | _ :: _ => none

/-- The failure that comes before any unfinished child. -/
def leadingFailure? : List Execution → Option RemoteError
  | .finished (.ok _) :: rest => leadingFailure? rest
  | .finished (.error error) :: _ => some error
  | _ => none

/-- What a poll leaves. -/
structure Polled where
  execution : Execution
  /-- Whether another poll was asked for while this one was running. -/
  again : Bool := false
  /-- The places to wake after the poll.  A place is a path through the children
  of groups; the empty path asks for a poll of this very execution. -/
  wakes : List (List Nat) := []

/-- What polling children has come to. -/
structure Round where
  children : List Execution
  queue : List Nat := []
  again : Bool := false
  wakes : List (List Nat) := []
  failure : Option RemoteError := none

/-- Polls the children of a narrow group from a position on. -/
def pollAll (poll : Execution → Traced Polled) : Nat → List Execution → Traced Round
  | _, [] => return { children := [] }
  | position, child :: rest => do
      let polled ← poll child
      let wakes := polled.wakes.map fun path =>
        if path.isEmpty then path else position :: path
      match polled.execution with
      | .finished (.error error) =>
          return { children := polled.execution :: rest
                   again := polled.again, wakes, failure := some error }
      | execution =>
          let others ← pollAll poll (position + 1) rest
          return { others with
            children := execution :: others.children
            again := polled.again || others.again
            wakes := wakes ++ others.wakes }

/-- Replaces a child of a wide group that was taken from the queue. -/
def Round.replace (round : Round) (position : Nat) (queue : List Nat)
    (polled : Polled) : Round :=
  { round with
    children := round.children.set position polled.execution
    queue :=
      if polled.again && !polled.execution.isFinished then queue ++ [position]
      else queue
    again := round.again || polled.again
    wakes := round.wakes ++ polled.wakes.map (position :: ·) }

/-- Polls children from the queue until one is done, and says whether one is.
The group gives way when the polls are used up, or the patience with children
that ask to be polled again. -/
def pollUntilDone (poll : Execution → Traced Polled) :
    Nat → Nat → Round → Traced (Bool × Round)
  | polls + 1, patience + 1, round =>
      match round.queue with
      | [] => return (false, round)
      | position :: queue =>
          match round.children[position]? with
          | none => return (false, round)
          | some child => do
              let polled ← poll child
              let round := round.replace position queue polled
              if polled.execution.isFinished then return (true, round)
              else
                pollUntilDone poll polls
                  (if polled.again then patience else patience + 1) round
  | _, _, round => return (false, { round with again := true })

/-- Polls a wide group with a number of unfinished children. -/
def pollQueue (poll : Execution → Traced Polled) : Nat → Round → Traced Round
  | 0, round => return round
  | unfinished + 1, round => do
      let (done, round) ← pollUntilDone poll (unfinished + 1) 2 round
      if done then
        match leadingFailure? round.children with
        | some error => return { round with failure := some error }
        | none => pollQueue poll unfinished round
      else return round

/-- Polls a group and merges if it is done. -/
def pollGroup (poll : Execution → Traced Polled) (op : BoolOp)
    (children : List Execution) (queue : List Nat) : Traced Polled := do
  let round ←
    if isWide children then
      pollQueue poll (children.countP (!·.isFinished)) { children, queue }
    else pollAll poll 0 children
  let polled (execution : Execution) : Polled :=
    { execution, again := round.again, wakes := round.wakes }
  match round.failure, results? round.children with
  | some error, _ => return polled (.finished (.error error))
  | none, none => return polled (.joining op round.children round.queue)
  | none, some lists =>
      let merged := merge op lists
      Traced.log (Log.Event.mergeComplete.trace
        [("op", op.key), ("records", toString merged.length)])
      return polled (.finished (.ok merged))

/-- Counts and logs the failure of a direct step. -/
def failStep (error : RemoteError) : Traced Polled := do
  Traced.count { remoteFailures := 1 }
  Traced.log ⟨.error, Log.Event.remoteQueryFailed.name,
    [("code", error.code), ("reason", error.message)]⟩
  return { execution := .finished (.error error) }

/-- Polls an execution whose groups are nested at most so deep. -/
def poll (answer : Answer) (resumption : Resumption) :
    Nat → Execution → Traced Polled
  | _, .planned (.direct filter sort level) => do
      Traced.count { remoteCalls := 1 }
      Traced.log (Log.Event.remoteQuery.trace
        [("filtered", toString filter.isSome), ("sorted", toString sort.isSome),
          ("nesting_level", toString level)])
      let query := Query.ofSort filter sort
      Traced.send query
      match answer query with
      | .refused error => failStep error
      | .sent answer =>
          return { execution := .waiting answer
                   again := resumption = .duringPoll
                   wakes := if resumption = .afterPoll then [[]] else [] }
  | _, .waiting (.ok page) => return { execution := .finished (.ok page.records) }
  | _, .waiting (.error error) => failStep error
  | depth + 1, .planned (.merge op level plans) => do
      Traced.count { decompositions := 1 }
      Traced.log (Log.Event.decompositionSplit.trace
        [("op", op.key), ("children", toString plans.length),
          ("nesting_level", toString level)])
      pollGroup (poll answer resumption depth) op (plans.map .planned)
        (if isWide plans then List.range plans.length else [])
  | depth + 1, .joining op children queue =>
      pollGroup (poll answer resumption depth) op children queue
  | _, execution => return { execution }

/-- Wakes a place, and says whether that asks for a poll of the whole.  A child
of a wide group that is waiting already, or done, is not put into the queue. -/
def wake : List Nat → Execution → Execution × Bool
  | [], execution => (execution, true)
  | position :: path, .joining op children queue =>
      match children[position]? with
      | none => (.joining op children queue, false)
      | some child =>
          let (child, asked) := wake path child
          let children := children.set position child
          if !isWide children then (.joining op children queue, asked)
          else if asked && !child.isFinished && !queue.contains position then
            (.joining op children (queue ++ [position]), true)
          else (.joining op children queue, false)
  | _, execution => (execution, false)

/-- Wakes the places a poll has left, the last first. -/
def Polled.resume (polled : Polled) : Execution :=
  polled.wakes.foldr (fun path execution => (wake path execution).1) polled.execution

/-- Polls an execution until it is done.  The polls never run out: each sends a
query or takes an answer. -/
def run (answer : Answer) (resumption : Resumption) (depth : Nat) :
    Nat → Execution → Traced (Except RemoteError (List Record))
  | 0, _ => return .ok []
  | polls + 1, execution => do
      let polled ← poll answer resumption depth execution
      match polled.execution with
      | .finished result => return result
      | _ => run answer resumption depth polls polled.resume

end Execution

namespace Plan

/-- Polls a plan for the first time. -/
def launch (plan : Plan) (answer : Answer) (resumption : Resumption) :
    Traced Execution :=
  return (← Execution.poll answer resumption plan.depth (.planned plan)).execution

/-- Executes a plan. -/
def execute (plan : Plan) (answer : Answer) (resumption : Resumption) :
    Traced (Except RemoteError (List Record)) :=
  Execution.run answer resumption plan.depth (2 * plan.remoteCalls + 1) (.planned plan)

end Plan

end NestedQuery
