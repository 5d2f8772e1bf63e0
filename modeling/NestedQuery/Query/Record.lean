import NestedQuery.Filter.Basic
import NestedQuery.Json.Decode

/-!
# Records and pages

A record of the remote database is an identifier and a payload that is carried
through untouched.  On the wire both share one object: the member `id` is the
identifier and all other members are the payload.  A record is read from an
object only.

The answers to the children of a split group are merged by record identifier.
An intersection keeps the records of the first list whose identifier occurs in
every other list; a union keeps the first record of each identifier in the
order of the lists.
-/

namespace NestedQuery

open Json (Source FieldReader Decoded)

structure Record where
  id : String
  payload : Dictionary Json := .empty
  deriving DecidableEq

namespace Record

def withField (record : Record) (key : String) (value : Json) : Record :=
  { record with payload := record.payload.insert key value }

/-- The identifier, then the payload. -/
def toJson (record : Record) : Json :=
  .object (("id", .string record.id) :: record.payload.entries)

/-- Reads members in written order.  The identifier may occur once; of other
repeated keys the last counts. -/
def decodeMembers :
    Option String → Dictionary Json → List (Option String × Source) → Decoded Record
  | some id, payload, [] => .ok ⟨id, payload⟩
  | none, _, [] => .error .mismatched
  | _, _, (none, _) :: _ => .error .malformed
  | id, payload, (some key, source) :: members =>
      if key = "id" then
        match id with
        | some _ => .error .mismatched
        | none => do
            let id ← source.decodeString
            decodeMembers (some id) payload members
      else do
        let value ← source.decodeJson
        decodeMembers id (payload.insert key value) members

def decode : Source → Decoded Record
  | .object members => decodeMembers none .empty members
  | source => .error source.fault

end Record

/-- One page of answers to a query. -/
structure Page where
  records : List Record
  hasMore : Bool := false
  nextCursor : Option String := none
  deriving DecidableEq

namespace Page

def toJson (page : Page) : Json :=
  .object
    [("results", .array (page.records.map Record.toJson)),
      ("has_more", .bool page.hasMore),
      ("next_cursor", .ofOption .string page.nextCursor)]

def fields : List (FieldReader Page) :=
  [.mandatory "results" (Source.decodeList Record.decode)
      fun page records => { page with records },
    .optional "has_more" Source.decodeBool
      fun page hasMore => { page with hasMore },
    .optional "next_cursor" (Source.decodeOption Source.decodeString)
      fun page nextCursor => { page with nextCursor }]

def decode : Source → Decoded Page :=
  Source.decodeStructure fields { records := [] }

end Page

/-! ## Merging -/

def hasId (records : List Record) (id : String) : Bool :=
  records.any (·.id == id)

def intersection : List (List Record) → List Record
  | [] => []
  | base :: others => base.filter fun record => others.all (hasId · record.id)

/-- Drops the records whose identifier was seen before. -/
def firstOfEachId : List String → List Record → List Record
  | _, [] => []
  | seen, record :: records =>
      if seen.contains record.id then firstOfEachId seen records
      else record :: firstOfEachId (record.id :: seen) records

def union (lists : List (List Record)) : List Record :=
  firstOfEachId [] lists.flatten

def merge : BoolOp → List (List Record) → List Record
  | .and => intersection
  | .or => union

end NestedQuery
