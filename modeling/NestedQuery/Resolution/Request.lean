import NestedQuery.Filter.Validation
import NestedQuery.Query.Basic

/-!
# Resolution requests

A request asks for the records of a filter.  Its filter is kept as it was sent
and read only when the request is resolved.  A sort that is no object means no
sort.

A resolution fails as a whole: the filter or the sort is refused before any
query is sent, or a query fails.
-/

namespace NestedQuery

open Json (Source FieldReader Decoded)

structure ResolveRequest where
  filter : Json := .null
  sort : Option SortRequest := none
  maxNestingLevel : Option UInt64 := none
  deriving DecidableEq

namespace ResolveRequest

def toJson (request : ResolveRequest) : Json :=
  .object
    [("filter", request.filter),
      ("sort", .ofOption SortRequest.toJson request.sort),
      ("maxNestingLevel", .ofOption .ofNat request.maxNestingLevel)]

/-- An object is a sort request, any other value is no sort. -/
def decodeSort (source : Source) : Decoded (Option SortRequest) := do
  match ← source.decodeJson with
  | .object members => some <$> SortRequest.decode (.ofJson (.object members))
  | _ => return none

def decodeLimit (source : Source) : Decoded UInt64 :=
  (source.decodeNatural UInt64.size).map Nat.toUInt64

def fields : List (FieldReader ResolveRequest) :=
  [.optional "filter" Source.decodeJson
      fun request filter => { request with filter },
    .optional "sort" decodeSort
      fun request sort => { request with sort },
    .optional "maxNestingLevel" (Source.decodeOption decodeLimit)
      fun request maxNestingLevel => { request with maxNestingLevel }]

def decode : Source → Decoded ResolveRequest :=
  Source.decodeStructure fields {}

/-- The nesting limit of a request, or the default. -/
def limit (request : ResolveRequest) (default : Nat) : Nat :=
  (request.maxNestingLevel.map UInt64.toNat).getD default

end ResolveRequest

/-! ## Failed resolutions -/

inductive ResolveError
  | rejected (why : Rejection)
  | remote (error : RemoteError)
  deriving DecidableEq

namespace ResolveError

def code : ResolveError → String
  | .rejected why => why.code
  | .remote error => error.code

/-- A rejection is shown behind its code, a failed query by its message. -/
def display : ResolveError → String
  | .rejected why => why.display
  | .remote error => error.message

/-- Whether the caller's input is to blame. -/
def isCallers : ResolveError → Bool
  | .rejected _ => true
  | .remote _ => false

end ResolveError

end NestedQuery
