import NestedQuery.Json.Decode
import NestedQuery.Schema.PropertyType

/-!
# Property schemas

A schema says which properties a filter may name, with the name of each
property's type, and which properties a sort may name.  A type name outside the
supported types is kept, so that the schema can be shown as configured, but no
filter may use the property.
-/

namespace NestedQuery

structure Schema where
  properties : Dictionary String
  /-- In the order in which messages list them. -/
  sortable : List String
  deriving DecidableEq

namespace Schema

def defaultProperties : Dictionary String :=
  .ofList
    [("Company", PropertyType.richText.name), ("Status", PropertyType.status.name),
      ("Priority", PropertyType.select.name),
      ("Estimated Value", PropertyType.number.name)]

def defaultSortable : List String :=
  ["Name", "Company", "Status", "Priority", "Estimated Value", "Account Owner"]

/-- The sales pipeline the service was made for. -/
protected def default : Schema := ⟨defaultProperties, defaultSortable⟩

instance : Inhabited Schema := ⟨Schema.default⟩

protected def empty : Schema := ⟨.empty, []⟩

/-- Adds a filterable property or replaces its type. -/
def withProperty (schema : Schema) (name typeName : String) : Schema :=
  { schema with properties := schema.properties.insert name typeName }

/-- Adds a sortable property at the end unless it is listed. -/
def withSortable (schema : Schema) (name : String) : Schema :=
  if schema.sortable.contains name then schema
  else { schema with sortable := schema.sortable ++ [name] }

/-- The configured type name of a property, supported or not. -/
def typeName? (schema : Schema) (property : String) : Option String :=
  schema.properties.get? property

/-- The supported type of a property. -/
def propertyType? (schema : Schema) (property : String) : Option PropertyType :=
  schema.typeName? property >>= PropertyType.ofName?

def isSortable (schema : Schema) (property : String) : Bool :=
  schema.sortable.contains property

def toJson (schema : Schema) : Json :=
  .object
    [("properties",
        .object (schema.properties.entries.map fun (name, type) => (name, .string type))),
      ("sortable", .array (schema.sortable.map .string))]

end Schema

open Json (Source FieldReader Decoded)

/-- A table of texts; the last of repeated keys counts. -/
def Json.Source.decodeTable : Source → Decoded (Dictionary String)
  | .object members => do
      let entries ← members.mapM fun (key, value) =>
        match key with
        | some key => return (key, ← value.decodeString)
        | none => .error .malformed
      return .ofList entries
  | source => .error source.fault

namespace Schema

def fields : List (FieldReader Schema) :=
  [.optional "properties" Source.decodeTable
      fun schema properties => { schema with properties },
    .optional "sortable" (Source.decodeList Source.decodeString)
      fun schema sortable => { schema with sortable }]

/-- A part that is left out keeps the default schema's. -/
def decode : Source → Decoded Schema :=
  Source.decodeStructure fields Schema.default

end Schema

end NestedQuery
