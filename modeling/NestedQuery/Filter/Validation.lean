import NestedQuery.Filter.Reading
import NestedQuery.Schema.Basic

/-!
# Filters under a schema

A condition is admitted when it names a property of a supported type and its
operator belongs to that type; the kind it is written with and its operand are
not looked at.  The same rule serves two walks: `validate` goes over a tree
that exists already, `readFilter` checks each condition while the tree is read,
so that the first fault of either sort is the one reported.
-/

namespace NestedQuery

namespace Schema

/-- The type of the property a condition names. -/
def typeOf (schema : Schema) : Option String → Except Rejection PropertyType
  | none => .error .missingProperty
  | some property =>
      match schema.propertyType? property with
      | some type => .ok type
      | none => .error (.unsupportedType property)

def checkCondition (schema : Schema) (condition : Condition) :
    Except Rejection Unit := do
  let type ← schema.typeOf condition.property
  if type.supports condition.operator then return ()
  else
    throw (.unsupportedOperator condition.operator type
      (condition.property.getD ""))

/-- The check of a walk that reads and validates at once. -/
def leafCheck (schema : Schema) : LeafCheck where
  property property := (schema.typeOf property).map fun _ => ()
  condition := schema.checkCondition

mutual

/-- Checks the conditions of a tree from left to right. -/
def checkFilter (schema : Schema) : Filter → Except Rejection Unit
  | .group _ children => schema.checkAll children
  | .condition condition => schema.checkCondition condition

def checkAll (schema : Schema) : List Filter → Except Rejection Unit
  | [] => .ok ()
  | filter :: filters => do
      schema.checkFilter filter
      schema.checkAll filters

end

/-- An absent filter is valid. -/
def validate (schema : Schema) : Option Filter → Except Rejection Unit
  | none => .ok ()
  | some filter => schema.checkFilter filter

/-- Reads an optional filter and checks it on the way. -/
def readFilter (schema : Schema) (value : Json) : Except Rejection (Option Filter) :=
  Filter.readOptional schema.leafCheck value

end Schema

end NestedQuery
