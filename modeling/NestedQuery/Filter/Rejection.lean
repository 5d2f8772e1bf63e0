import NestedQuery.Filter.Basic
import NestedQuery.Schema.PropertyType

/-!
# Rejections

Why a filter or a sort is refused before any query is sent.  Each cause has a
stable code, a message and, where there is one, the offending property.
-/

namespace NestedQuery

/-- The ways in which a value fails to be the wire form of a filter. -/
inductive Malformation
  | notAnObject (found : String)
  | bothGroups
  | childrenNotAnArray (op : BoolOp)
  | noChildren (op : BoolOp)
  | propertyNotAString (found : String)
  | noCondition
  | severalConditions
  | bodyNotAnObject (kind : String)
  | notOneOperator (kind : String)
  /-- A reason given in words. -/
  | stated (reason : String)
  deriving DecidableEq

def Malformation.message : Malformation → String
  | .notAnObject found => "Filter must be an object, got " ++ found
  | .bothGroups => "Filter group must contain exactly one of 'and' or 'or'"
  | .childrenNotAnArray op => "'" ++ op.key ++ "' must be an array of filters"
  | .noChildren op => "'" ++ op.key ++ "' must contain at least one filter"
  | .propertyNotAString found => "'property' must be a string, got " ++ found
  | .noCondition =>
      "Filter condition must contain a condition such as " ++
        "\x7b\"select\": \x7b\"equals\": ...\x7d\x7d"
  | .severalConditions => "Filter condition must contain exactly one condition key"
  | .bodyNotAnObject kind => "Condition '" ++ kind ++ "' must be an object"
  | .notOneOperator kind =>
      "Condition '" ++ kind ++ "' must contain exactly one operator"
  | .stated reason => reason

inductive Rejection
  | malformed (why : Malformation)
  | missingProperty
  | unsupportedType (property : String)
  | unsupportedOperator (operator : String) (type : PropertyType) (property : String)
  /-- The property asked for, if any, and those a sort may name. -/
  | invalidSort (property : Option String) (sortable : List String)
  deriving DecidableEq

namespace Rejection

def code : Rejection → String
  | .malformed _ => "FLATQUERY_FILTER_MALFORMED"
  | .missingProperty => "FLATQUERY_FILTER_MISSING_PROPERTY"
  | .unsupportedType _ => "FLATQUERY_FILTER_UNSUPPORTED_PROPERTY_TYPE"
  | .unsupportedOperator _ _ _ => "FLATQUERY_FILTER_UNSUPPORTED_OPERATOR"
  | .invalidSort _ _ => "FLATQUERY_SORT_INVALID_PROPERTY"

def message : Rejection → String
  | .malformed why => why.message
  | .missingProperty => "Property is required in filter condition"
  | .unsupportedType property =>
      "Unsupported property type for " ++ property ++ ". Supported types: " ++
        PropertyType.supportedNames
  | .unsupportedOperator operator type property =>
      "Unsupported operator '" ++ operator ++ "' for type '" ++ type.name ++
        "' in property '" ++ property ++ "'. Supported operators: " ++
        ", ".intercalate type.operators
  | .invalidSort property sortable =>
      "Invalid sort property: " ++ property.getD "undefined" ++
        ". Must be one of: " ++ ", ".intercalate sortable

/-- The offending property, where the cause names one. -/
def property? : Rejection → Option String
  | .malformed _ | .missingProperty => none
  | .unsupportedType property | .unsupportedOperator _ _ property => some property
  | .invalidSort property _ => property

/-- The message behind its code. -/
def display (rejection : Rejection) : String :=
  rejection.code ++ ": " ++ rejection.message

end Rejection

end NestedQuery
