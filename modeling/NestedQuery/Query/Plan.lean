import NestedQuery.Query.Basic

/-!
# Plans

The remote service refuses filters beyond a nesting limit.  A plan says how a
filter is answered all the same: a filter within the limit is one direct step,
a group beyond it is split into its children, each planned under the same
limit, whose answers are merged.  A sort is only sent when the whole filter is
one step, because merged answers are not sorted again.
-/

namespace NestedQuery

inductive Plan
  | direct (filter : Option Filter) (sort : Option ResolvedSort) (level : Nat)
  | merge (op : BoolOp) (level : Nat) (children : List Plan)

namespace Plan

instance : Inhabited Plan := ⟨.direct none none 0⟩

mutual

/-- The plan of a filter; the sort goes with a direct step only. -/
def ofFilter (limit : Nat) (sort : Option ResolvedSort) : Filter → Plan
  | .group op children =>
      let level := Filter.groupLevel children
      if limit < level then .merge op level (ofFilters limit children)
      else .direct (some (.group op children)) sort level
  | .condition leaf => .direct (some (.condition leaf)) sort 0

/-- The plans of the children of a split group. -/
def ofFilters (limit : Nat) : List Filter → List Plan
  | [] => []
  | filter :: filters => ofFilter limit none filter :: ofFilters limit filters

end

/-- The plan of an optional filter. -/
def build (limit : Nat) (sort : Option ResolvedSort) : Option Filter → Plan
  | none => .direct none sort 0
  | some filter => ofFilter limit sort filter

def isDirect : Plan → Bool
  | .direct _ _ _ => true
  | .merge _ _ _ => false

mutual

/-- The queries of the direct steps from left to right. -/
def queries : Plan → List Query
  | .direct filter sort _ => [.ofSort filter sort]
  | .merge _ _ children => allQueries children

def allQueries : List Plan → List Query
  | [] => []
  | plan :: plans => plan.queries ++ allQueries plans

end

mutual

/-- The number of direct steps. -/
def remoteCalls : Plan → Nat
  | .direct _ _ _ => 1
  | .merge _ _ children => allRemoteCalls children

def allRemoteCalls : List Plan → Nat
  | [] => 0
  | plan :: plans => plan.remoteCalls + allRemoteCalls plans

end

mutual

/-- The number of merge steps that lie within one another. -/
def depth : Plan → Nat
  | .direct _ _ _ => 0
  | .merge _ _ children => allDepth children + 1

def allDepth : List Plan → Nat
  | [] => 0
  | plan :: plans => max plan.depth (allDepth plans)

end

mutual

def toJson : Plan → Json
  | .direct filter sort level =>
      .object
        ([("step", .string "direct")] ++
          (filter.map fun filter => ("filter", filter.toJson)).toList ++
          (sort.map fun sort => ("sort", sort.toJson)).toList ++
          [("nesting_level", .ofNat level.toUInt64)])
  | .merge op level children =>
      .object
        [("step", .string "merge"), ("op", .string op.key),
          ("nesting_level", .ofNat level.toUInt64),
          ("children", .array (allToJson children))]

def allToJson : List Plan → List Json
  | [] => []
  | plan :: plans => plan.toJson :: allToJson plans

end

end Plan

end NestedQuery
