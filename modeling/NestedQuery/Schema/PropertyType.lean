/-!
# Property types

The types a filter may ask about, each with the operators it admits.
-/

namespace NestedQuery

inductive PropertyType
  | checkbox
  | date
  | multiSelect
  | number
  | richText
  | select
  | timestamp
  | status
  deriving DecidableEq

namespace PropertyType

/-- Every supported type, in the order in which messages list them. -/
def all : List PropertyType :=
  [.checkbox, .date, .multiSelect, .number, .richText, .select, .timestamp, .status]

def name : PropertyType → String
  | .checkbox => "checkbox"
  | .date => "date"
  | .multiSelect => "multi_select"
  | .number => "number"
  | .richText => "rich_text"
  | .select => "select"
  | .timestamp => "timestamp"
  | .status => "status"

/-- The supported type of a name, which is compared exactly. -/
def ofName? (name : String) : Option PropertyType :=
  all.find? (·.name == name)

def operators : PropertyType → List String
  | .checkbox => ["equals", "does_not_equal"]
  | .date =>
      ["after", "before", "on_or_after", "on_or_before", "is_empty", "is_not_empty"]
  | .multiSelect => ["contains", "does_not_contain", "is_empty", "is_not_empty"]
  | .number =>
      ["equals", "does_not_equal", "greater_than", "less_than", "is_empty",
        "is_not_empty"]
  | .richText =>
      ["equals", "does_not_equal", "contains", "does_not_contain", "is_empty",
        "is_not_empty"]
  | .select | .status => ["equals", "does_not_equal", "is_empty", "is_not_empty"]
  | .timestamp => ["after", "before", "on_or_after", "on_or_before"]

def supports (type : PropertyType) (operator : String) : Bool :=
  type.operators.contains operator

def supportedNames : String := ", ".intercalate (all.map name)

theorem ofName?_name (type : PropertyType) : ofName? type.name = some type := by
  cases type <;> decide

end PropertyType

end NestedQuery
