import NestedQuery.Json.Basic

/-!
# Counters

The operational counters of a server or a resolver.  They only grow and wrap
around at 64 bits.  An amount to be added is a value of the same type.
-/

namespace NestedQuery

structure Counters where
  /-- HTTP requests received. -/
  requests : UInt64 := 0
  /-- Resolutions that returned records. -/
  resolutions : UInt64 := 0
  /-- Queries sent to the remote service. -/
  remoteCalls : UInt64 := 0
  /-- Remote queries that failed. -/
  remoteFailures : UInt64 := 0
  /-- Groups split because they exceed the nesting limit. -/
  decompositions : UInt64 := 0
  /-- Filters and sorts refused. -/
  filtersRejected : UInt64 := 0
  /-- Records returned to callers. -/
  recordsReturned : UInt64 := 0
  deriving DecidableEq

namespace Counters

instance : Add Counters where
  add left right :=
    { requests := left.requests + right.requests
      resolutions := left.resolutions + right.resolutions
      remoteCalls := left.remoteCalls + right.remoteCalls
      remoteFailures := left.remoteFailures + right.remoteFailures
      decompositions := left.decompositions + right.decompositions
      filtersRejected := left.filtersRejected + right.filtersRejected
      recordsReturned := left.recordsReturned + right.recordsReturned }

/-- The amount of one occurrence of what a counter of the given name counts;
of returned records a number may occur at once. -/
def ofName? (name : String) (records : UInt64) : Option Counters :=
  match name with
  | "requests" => some { requests := 1 }
  | "resolutions" => some { resolutions := 1 }
  | "remote_calls" => some { remoteCalls := 1 }
  | "remote_failures" => some { remoteFailures := 1 }
  | "decompositions" => some { decompositions := 1 }
  | "filters_rejected" => some { filtersRejected := 1 }
  | "records_returned" => some { recordsReturned := records }
  | _ => none

def toJson (counters : Counters) : Json :=
  .object
    [("requests", .ofNat counters.requests),
      ("resolutions", .ofNat counters.resolutions),
      ("remote_calls", .ofNat counters.remoteCalls),
      ("remote_failures", .ofNat counters.remoteFailures),
      ("decompositions", .ofNat counters.decompositions),
      ("filters_rejected", .ofNat counters.filtersRejected),
      ("records_returned", .ofNat counters.recordsReturned)]

end Counters

end NestedQuery
