import NestedQuery.Query.Record

/-!
# Sales rows

A row shows six cells of a record's `properties` object.  Every cell carries a
type tag and, under the name of that type, its content.  A record whose cells
are not all there with a type the column admits is shown as a placeholder as a
whole; a cell of the right type with unusual content only leaves its own column
empty.
-/

namespace NestedQuery

open Json (Source FieldReader Decoded)

structure SalesRow where
  id : String
  name : String
  company : String
  status : String
  priority : String
  estimatedValue : Float
  accountOwner : String
  deriving DecidableEq

namespace SalesRow

def notFound : String := "NOT_FOUND"

/-- The row of a record that is no sales record. -/
def placeholder : SalesRow :=
  { id := "", name := notFound, company := notFound, status := notFound
    priority := notFound, estimatedValue := 0, accountOwner := notFound }

/-- Whether a row shows what the placeholder shows; the value may be either
zero. -/
def isPlaceholder (row : SalesRow) : Bool :=
  row.estimatedValue == 0 && { row with estimatedValue := 0 } == placeholder

/-- The content of the cell of a column, if its type is one the column
admits. -/
def cell? (properties : Json) (column : String) (types : List String) : Option Json := do
  let cell ← properties.member? column
  let type ← cell.member? "type" >>= Json.string?
  if types.contains type then return (cell.member? type).getD .null
  else none

/-- The plain text of the first fragment. -/
def firstPlainText (content : Json) : String :=
  ((content.first? >>= Json.member? "plain_text") >>= Json.string?).getD ""

/-- The name of the chosen option. -/
def optionName (content : Json) : String :=
  (content.member? "name" >>= Json.string?).getD ""

/-- What the first person is. -/
def firstPerson (content : Json) : String :=
  ((content.first? >>= Json.member? "object") >>= Json.string?).getD ""

/-- The row of a record with all six cells. -/
def ofRecord? (record : Record) : Option SalesRow := do
  let properties ← record.payload.get? "properties"
  let name ← cell? properties "Name" ["title"]
  let company ← cell? properties "Company" ["rich_text"]
  let status ← cell? properties "Status" ["select", "status"]
  let priority ← cell? properties "Priority" ["select"]
  let value ← cell? properties "Estimated Value" ["number"]
  let owner ← cell? properties "Account Owner" ["people"]
  return {
    id := record.id
    name := firstPlainText name
    company := firstPlainText company
    status := optionName status
    priority := optionName priority
    estimatedValue := value.float?.getD 0
    accountOwner := firstPerson owner }

def ofRecord (record : Record) : SalesRow :=
  (ofRecord? record).getD placeholder

def toJson (row : SalesRow) : Json :=
  .object
    [("id", .string row.id), ("name", .string row.name),
      ("company", .string row.company), ("status", .string row.status),
      ("priority", .string row.priority),
      ("estimatedValue", .number (.real row.estimatedValue)),
      ("accountOwner", .string row.accountOwner)]

def fields : List (FieldReader SalesRow) :=
  [.mandatory "id" Source.decodeString fun row id => { row with id },
    .mandatory "name" Source.decodeString fun row name => { row with name },
    .mandatory "company" Source.decodeString fun row company => { row with company },
    .mandatory "status" Source.decodeString fun row status => { row with status },
    .mandatory "priority" Source.decodeString fun row priority => { row with priority },
    .mandatory "estimatedValue" Source.decodeFloat
      fun row estimatedValue => { row with estimatedValue },
    .mandatory "accountOwner" Source.decodeString
      fun row accountOwner => { row with accountOwner }]

def decode : Source → Decoded SalesRow :=
  Source.decodeStructure fields placeholder

/-- The rows of a list of records as one JSON document. -/
def tableJson (records : List Record) : Json :=
  .array (records.map fun record => (ofRecord record).toJson)

end SalesRow

end NestedQuery
