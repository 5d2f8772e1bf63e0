import NestedQuery.Filter.Rejection

/-!
# Filters from their wire form

A value is read in one walk, depth first and children in order, and the first
fault met is the one reported.  A check may run on every condition: its first
half sees the property before the rest of the condition is looked at, its
second half sees the whole condition.
-/

namespace NestedQuery

/-- What a walk asks of each condition. -/
structure LeafCheck where
  property : Option String → Except Rejection Unit
  condition : Condition → Except Rejection Unit

/-- Asks for the structure only. -/
def LeafCheck.structureOnly : LeafCheck := ⟨fun _ => .ok (), fun _ => .ok ()⟩

namespace Filter

def malformed {A : Type} (why : Malformation) : Except Rejection A :=
  .error (.malformed why)

/-- The property a condition names.  Null and the empty name are none. -/
def readProperty (members : List (String × Json)) : Except Rejection (Option String) :=
  match members.lookup "property" with
  | none | some .null => .ok none
  | some (.string property) => .ok (if property = "" then none else some property)
  | some other => malformed (.propertyNotAString other.kindName)

/-- The one member besides the property. -/
def readKind (members : List (String × Json)) : Except Rejection (String × Json) :=
  match members.filter fun member => member.1 != "property" with
  | [entry] => .ok entry
  | [] => malformed .noCondition
  | _ => malformed .severalConditions

/-- The one operator of a condition and its operand. -/
def readBody (kind : String) : Json → Except Rejection (String × Json)
  | .object [entry] => .ok entry
  | .object _ => malformed (.notOneOperator kind)
  | _ => malformed (.bodyNotAnObject kind)

def readCondition (check : LeafCheck) (members : List (String × Json)) :
    Except Rejection Filter := do
  let property ← readProperty members
  check.property property
  let (kind, body) ← readKind members
  let (operator, operand) ← readBody kind body
  let condition : Condition := ⟨property, kind, operator, operand⟩
  check.condition condition
  return .condition condition

mutual

/-- Reads one filter of the tree. -/
def readNode (check : LeafCheck) : Json → Except Rejection Filter
  | .object members =>
      match readUnder check .and members, readUnder check .or members with
      | some _, some _ => malformed .bothGroups
      | some children, none => children.map (.group .and)
      | none, some children => children.map (.group .or)
      | none, none => readCondition check members
  | other => malformed (.notAnObject other.kindName)

/-- Reads the children a member lists, if there is such a member. -/
def readUnder (check : LeafCheck) (op : BoolOp) :
    List (String × Json) → Option (Except Rejection (List Filter))
  | [] => none
  | (key, value) :: members =>
      if key = op.key then some (readChildren check op value)
      else readUnder check op members

def readChildren (check : LeafCheck) (op : BoolOp) :
    Json → Except Rejection (List Filter)
  | .array [] => malformed (.noChildren op)
  | .array (item :: items) => do
      let head ← readNode check item
      let tail ← readAll check items
      return head :: tail
  | _ => malformed (.childrenNotAnArray op)

def readAll (check : LeafCheck) : List Json → Except Rejection (List Filter)
  | [] => .ok []
  | item :: items => do
      let head ← readNode check item
      let tail ← readAll check items
      return head :: tail

end

/-- Reads an optional filter: null is an absent one. -/
def readOptional (check : LeafCheck) : Json → Except Rejection (Option Filter)
  | .null => .ok none
  | value => (readNode check value).map some

/-- Reads a filter by its structure alone. -/
def ofJson (value : Json) : Except Rejection Filter :=
  readNode .structureOnly value

/-- Reads an optional filter by its structure alone. -/
def ofJson? (value : Json) : Except Rejection (Option Filter) :=
  readOptional .structureOnly value

end Filter

end NestedQuery
