import NestedQuery.Log.Entry

/-!
# Events

The events of the service that stand alone.  A failed start is fatal; other
lifecycle events are informative, and the events of single calls are traced.
-/

namespace NestedQuery

namespace Log

inductive Event
  | configLoaded
  | serverStart
  | serving
  | startupFailed
  | requestReceived
  | requestComplete
  | filterRejected
  | decompositionSplit
  | mergeComplete
  | remoteQuery
  | remoteQueryFailed
  | explainComplete
  deriving DecidableEq

namespace Event

def all : List Event :=
  [.configLoaded, .serverStart, .serving, .startupFailed, .requestReceived,
    .requestComplete, .filterRejected, .decompositionSplit, .mergeComplete,
    .remoteQuery, .remoteQueryFailed, .explainComplete]

def name : Event → String
  | .configLoaded => "CONFIG_LOADED"
  | .serverStart => "SERVER_START"
  | .serving => "SERVER_SERVING"
  | .startupFailed => "STARTUP_FAILED"
  | .requestReceived => "REQUEST_RECEIVED"
  | .requestComplete => "REQUEST_COMPLETE"
  | .filterRejected => "FILTER_REJECTED"
  | .decompositionSplit => "DECOMPOSITION_SPLIT"
  | .mergeComplete => "MERGE_COMPLETE"
  | .remoteQuery => "REMOTE_QUERY"
  | .remoteQueryFailed => "REMOTE_QUERY_FAILED"
  | .explainComplete => "EXPLAIN_COMPLETE"

def ofName? (name : String) : Option Event := all.find? (·.name == name)

def isFatal (event : Event) : Bool := event = .startupFailed

/-- A lifecycle entry. -/
def entry (event : Event) (fields : List (String × String)) : Entry :=
  ⟨if event.isFatal then .fatal else .info, event.name, fields⟩

/-- An entry about a single call. -/
def trace (event : Event) (fields : List (String × String)) : Entry :=
  ⟨.trace, event.name, fields⟩

end Event

end Log

end NestedQuery
