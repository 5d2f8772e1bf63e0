import NestedQuery.Json.Basic

/-!
# Filters

A filter is a tree of and-groups and or-groups over conditions.  Its wire form
is a JSON object: a group is one member `and` or `or` that lists the children,
a condition is a member `property` beside one member that is named for the kind
of condition and holds the operator and its operand.

The nesting level of a filter counts the groups on its longest descent.  A
group without children does not count, so that it never has to be split.
-/

namespace NestedQuery

inductive BoolOp
  | and
  | or
  deriving DecidableEq

namespace BoolOp

/-- The member that lists the children of a group. -/
def key : BoolOp → String
  | .and => "and"
  | .or => "or"

def ofKey? (key : String) : Option BoolOp :=
  [BoolOp.and, .or].find? (·.key == key)

end BoolOp

/-- A comparison of one property.  The operand is opaque. -/
structure Condition where
  property : Option String
  kind : String
  operator : String
  operand : Json
  deriving DecidableEq

/-- The kind is written last, so it displaces the property if it has its
name. -/
def Condition.toJson (condition : Condition) : Json :=
  let named :=
    match condition.property with
    | some property => [("property", Json.string property)]
    | none => []
  .object
    (insertEntry condition.kind (.object [(condition.operator, condition.operand)])
      named)

inductive Filter
  | group (op : BoolOp) (children : List Filter)
  | condition (condition : Condition)

namespace Filter

instance : Inhabited Filter := ⟨.group .and []⟩

def isGroup : Filter → Bool
  | .group _ _ => true
  | .condition _ => false

mutual

/-- The wire form of a filter. -/
def toJson : Filter → Json
  | .group op children => .object [(op.key, .array (allToJson children))]
  | .condition leaf => leaf.toJson

def allToJson : List Filter → List Json
  | [] => []
  | filter :: filters => filter.toJson :: allToJson filters

end

mutual

/-- The number of groups on the longest descent that have children. -/
def level : Filter → Nat
  | .group _ children => groupLevel children
  | .condition _ => 0

/-- The level of a group with the given children: none, or one more than the
deepest child. -/
def groupLevel : List Filter → Nat
  | [] => 0
  | filter :: filters => max (filter.level + 1) (groupLevel filters)

end

mutual

/-- The conditions of a filter from left to right. -/
def leaves : Filter → List Condition
  | .group _ children => allLeaves children
  | .condition leaf => [leaf]

def allLeaves : List Filter → List Condition
  | [] => []
  | filter :: filters => filter.leaves ++ allLeaves filters

end

mutual

def decEq : (left right : Filter) → Decidable (left = right)
  | .group leftOp left, .group rightOp right =>
      match allDecEq left right with
      | .isTrue h => decidable_of_iff (leftOp = rightOp) (by simp [h])
      | .isFalse h => .isFalse (by simp [h])
  | .condition left, .condition right =>
      decidable_of_iff (left = right) (by simp)
  | .group _ _, .condition _ | .condition _, .group _ _ => .isFalse (by simp)

def allDecEq : (left right : List Filter) → Decidable (left = right)
  | [], [] => .isTrue rfl
  | [], _ :: _ | _ :: _, [] => .isFalse (by simp)
  | left :: lefts, right :: rights =>
      match decEq left right, allDecEq lefts rights with
      | .isTrue h, .isTrue hs => .isTrue (by rw [h, hs])
      | .isFalse h, _ => .isFalse (by simp [h])
      | _, .isFalse hs => .isFalse (by simp [hs])

end

instance : DecidableEq Filter := decEq

theorem allToJson_eq_map (filters : List Filter) :
    allToJson filters = filters.map toJson := by
  induction filters with
  | nil => rfl
  | cons filter filters ih => simp [allToJson, ih]

theorem allLeaves_eq_flatMap (filters : List Filter) :
    allLeaves filters = filters.flatMap leaves := by
  induction filters with
  | nil => rfl
  | cons filter filters ih => simp [allLeaves, ih]

end Filter

end NestedQuery
