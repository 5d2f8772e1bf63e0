import NestedQuery.Proofs.Filter.Tree
import NestedQuery.Proofs.Gathering

/-!
# The verdict on a filter

Validation goes over the conditions of a filter from left to right and ends at the first
one that the schema refuses, with what it has against it.  It looks at the property and
the operator of a condition.  The groups around the conditions, their operators, and the
kinds and the operands of the conditions play no part.
-/

namespace NestedQuery

namespace PropertyType

theorem ofName?_eq_some_iff {name : String} {type : PropertyType} :
    ofName? name = some type ↔ name = type.name := by
  constructor
  · intro hfound
    rw [ofName?] at hfound
    have hname := List.find?_some hfound
    exact (beq_iff_eq.mp hname).symm
  · rintro rfl
    exact ofName?_name type

theorem supports_iff {type : PropertyType} {operator : String} :
    type.supports operator = true ↔ operator ∈ type.operators :=
  List.contains_iff_mem

end PropertyType

namespace Schema

variable {schema : Schema} {leaf : Condition} {why : Rejection}

theorem propertyType?_eq_some_iff {property : String} {type : PropertyType} :
    schema.propertyType? property = some type ↔
      schema.typeName? property = some type.name := by
  rw [propertyType?, Option.bind_eq_bind, Option.bind_eq_some_iff]
  simp only [PropertyType.ofName?_eq_some_iff]
  constructor
  · rintro ⟨name, hname, rfl⟩
    exact hname
  · intro hname
    exact ⟨type.name, hname, rfl⟩

theorem propertyType?_eq_none_iff {property : String} :
    schema.propertyType? property = none ↔
      ∀ type : PropertyType, schema.typeName? property ≠ some type.name := by
  simp only [Option.eq_none_iff_forall_ne_some, ne_eq, propertyType?_eq_some_iff]

/-! ## One condition -/

/-- What a schema has against a condition. -/
inductive Refuses (schema : Schema) (leaf : Condition) : Rejection → Prop
  | missingProperty (hproperty : leaf.property = none) :
      Refuses schema leaf .missingProperty
  | unsupportedType {property : String} (hproperty : leaf.property = some property)
      (htype : ∀ type : PropertyType, schema.typeName? property ≠ some type.name) :
      Refuses schema leaf (.unsupportedType property)
  | unsupportedOperator {property : String} {type : PropertyType}
      (hproperty : leaf.property = some property)
      (htype : schema.typeName? property = some type.name)
      (hoperator : leaf.operator ∉ type.operators) :
      Refuses schema leaf (.unsupportedOperator leaf.operator type property)

/-- A refusal names the property of the condition, if it has one. -/
theorem Refuses.property?_eq (hrefuses : schema.Refuses leaf why) :
    why.property? = leaf.property := by
  cases hrefuses with
  | missingProperty hproperty => exact hproperty.symm
  | unsupportedType hproperty htype => exact hproperty.symm
  | unsupportedOperator hproperty htype hoperator => exact hproperty.symm

theorem admits_iff :
    schema.Admits leaf ↔ ∃ (property : String) (type : PropertyType),
      leaf.property = some property ∧ schema.typeName? property = some type.name ∧
        leaf.operator ∈ type.operators := by
  simp only [Admits, propertyType?_eq_some_iff, PropertyType.supports_iff]

theorem checkCondition_of_refuses (hrefuses : schema.Refuses leaf why) :
    schema.checkCondition leaf = .error why := by
  cases hrefuses with
  | missingProperty hproperty =>
      rw [checkCondition, hproperty]
      rfl
  | unsupportedType hproperty htype =>
      rw [checkCondition, hproperty, typeOf, propertyType?_eq_none_iff.mpr htype]
      rfl
  | @unsupportedOperator property type hproperty htype hoperator =>
      have hsupports : ¬type.supports leaf.operator = true := by
        rwa [PropertyType.supports_iff]
      rw [checkCondition, hproperty, typeOf, propertyType?_eq_some_iff.mpr htype]
      exact if_neg hsupports

/-- A schema admits a condition or has one thing against it. -/
theorem admits_or_exists_refuses (schema : Schema) (leaf : Condition) :
    schema.Admits leaf ∨ ∃ why, schema.Refuses leaf why := by
  cases hproperty : leaf.property with
  | none => exact Or.inr ⟨_, .missingProperty hproperty⟩
  | some property =>
      cases htype : schema.propertyType? property with
      | none =>
          rw [propertyType?_eq_none_iff] at htype
          exact Or.inr ⟨_, .unsupportedType hproperty htype⟩
      | some type =>
          rw [propertyType?_eq_some_iff] at htype
          by_cases hoperator : leaf.operator ∈ type.operators
          · left
            rw [admits_iff]
            exact ⟨property, type, hproperty, htype, hoperator⟩
          · exact Or.inr ⟨_, .unsupportedOperator hproperty htype hoperator⟩

theorem checkCondition_eq_error_iff :
    schema.checkCondition leaf = .error why ↔ schema.Refuses leaf why := by
  constructor
  · intro hcheck
    rcases admits_or_exists_refuses schema leaf with hadmits | ⟨other, hrefuses⟩
    · rw [(checkCondition_eq_ok_iff schema leaf).mpr hadmits] at hcheck
      cases hcheck
    · rw [checkCondition_of_refuses hrefuses] at hcheck
      cases hcheck
      exact hrefuses
  · exact checkCondition_of_refuses

/-! ## All conditions -/

/-- What a schema has against the conditions of a filter, from left to right. -/
def refusals (schema : Schema) (filter : Filter) : List Rejection :=
  filter.leaves.filterMap fun leaf => failureOf (schema.checkCondition leaf)

theorem refusals_group (op : BoolOp) (children : List Filter) :
    schema.refusals (.group op children) = children.flatMap schema.refusals := by
  rw [refusals, Filter.leaves, Filter.allLeaves_eq_flatMap, List.filterMap_flatMap]
  rfl

theorem refusals_condition (leaf : Condition) :
    schema.refusals (.condition leaf) =
      (failureOf (schema.checkCondition leaf)).toList := by
  rw [refusals, Filter.leaves, List.filterMap_cons]
  cases failureOf (schema.checkCondition leaf) <;> rfl

theorem checkAll_eq_gather (filters : List Filter) :
    schema.checkAll filters =
      (gather (filters.map schema.checkFilter)).map fun _ => () := by
  induction filters with
  | nil => rfl
  | cons filter filters ih =>
      rw [checkAll, ih, List.map_cons]
      cases schema.checkFilter filter with
      | error why => rfl
      | ok done =>
          rw [gather]
          cases gather (filters.map schema.checkFilter) <;> rfl

/-- Validation ends with the first of the refusals. -/
theorem failureOf_checkFilter (schema : Schema) (filter : Filter) :
    failureOf (schema.checkFilter filter) = (schema.refusals filter).head? := by
  induction filter using Filter.induct with
  | group op children ih =>
      rw [checkFilter, checkAll_eq_gather, failureOf_map, refusals_group]
      exact failureOf_gather_eq_head? ih
  | condition leaf =>
      rw [checkFilter, refusals_condition]
      cases failureOf (schema.checkCondition leaf) <;> rfl

theorem checkFilter_eq_error_iff {filter : Filter} :
    schema.checkFilter filter = .error why ↔
      ∃ before leaf after, filter.leaves = before ++ leaf :: after ∧
        schema.Refuses leaf why ∧ ∀ other ∈ before, schema.Admits other := by
  have hadmits : ∀ leaf, failureOf (schema.checkCondition leaf) = none ↔
      schema.Admits leaf := by
    intro leaf
    rw [← checkCondition_eq_ok_iff, ← failureOf_inj, failureOf_ok]
  rw [← failureOf_eq_some_iff, failureOf_checkFilter, refusals, List.head?_filterMap,
    List.findSome?_eq_some_iff]
  simp only [failureOf_eq_some_iff, checkCondition_eq_error_iff, hadmits]

/-- Only the property and the operator of a condition are looked at. -/
theorem refusals_eq_of_leaves {left right : Filter}
    (hleaves : left.leaves.map (fun leaf => (leaf.property, leaf.operator)) =
      right.leaves.map fun leaf => (leaf.property, leaf.operator)) :
    schema.refusals left = schema.refusals right := by
  let refusal : Option String × String → Option Rejection := fun looked =>
    failureOf (schema.checkCondition ⟨looked.1, "", looked.2, .null⟩)
  have hlooked : ∀ filter : Filter, schema.refusals filter =
      (filter.leaves.map fun leaf => (leaf.property, leaf.operator)).filterMap refusal := by
    intro filter
    rw [List.filterMap_map]
    rfl
  rw [hlooked, hlooked, hleaves]

/-- A filter is valid if each condition names a property of a supported type that has the
operator of the condition.  Otherwise the first condition that does not decides: the
verdict is what the schema has against it, and names its property if it has one.
Filters whose conditions agree in their properties and operators, in order, are judged
alike. -/
theorem validation_judges_conditions (schema : Schema) (filter : Filter) :
    (schema.validate (some filter) = .ok () ↔
        ∀ leaf ∈ filter.leaves, ∃ (property : String) (type : PropertyType),
          leaf.property = some property ∧ schema.typeName? property = some type.name ∧
            leaf.operator ∈ type.operators) ∧
      (∀ why, schema.validate (some filter) = .error why ↔
        ∃ before leaf after, filter.leaves = before ++ leaf :: after ∧
          (schema.Refuses leaf why ∧ why.property? = leaf.property) ∧
          ∀ other ∈ before, schema.Admits other) ∧
      ∀ other : Filter,
        other.leaves.map (fun leaf => (leaf.property, leaf.operator)) =
          filter.leaves.map (fun leaf => (leaf.property, leaf.operator)) →
        schema.validate (some other) = schema.validate (some filter) := by
  refine ⟨?_, fun why => ?_, fun other hleaves => ?_⟩
  · simp only [← admits_iff]
    exact checkFilter_eq_ok_iff schema filter
  · have hnamed : ∀ leaf, schema.Refuses leaf why ↔
        schema.Refuses leaf why ∧ why.property? = leaf.property := fun leaf =>
      ⟨fun hrefuses => ⟨hrefuses, hrefuses.property?_eq⟩, And.left⟩
    simp only [← hnamed]
    exact checkFilter_eq_error_iff
  · rw [validate, validate, ← failureOf_inj, failureOf_checkFilter,
      failureOf_checkFilter, refusals_eq_of_leaves hleaves]

/-- There is nothing to refuse in a group without children. -/
example (op : BoolOp) : schema.validate (some (.group op [])) = .ok () := rfl

end Schema

end NestedQuery
