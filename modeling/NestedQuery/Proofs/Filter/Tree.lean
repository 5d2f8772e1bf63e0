import NestedQuery.Filter.Validation

/-!
# Filter trees

A part of a filter is the filter itself or a part of a child of its group.  The
conditions of a part are conditions of the whole, and the level of a group lies
above the levels of its children, so a level bound splits a tree from the root
downwards.

A schema admits a condition if it maps the condition's property to a supported
type that has the condition's operator.  Validation succeeds exactly on the
filters all of whose conditions are admitted.
-/

namespace NestedQuery

namespace Filter

/-- Induction with one hypothesis for all children of a group. -/
@[elab_as_elim]
theorem induct {motive : Filter → Prop}
    (group : ∀ op children, (∀ child ∈ children, motive child) →
      motive (.group op children))
    (condition : ∀ leaf, motive (.condition leaf)) : ∀ filter, motive filter
  | .group op children =>
      group op children fun child _hmem => induct group condition child
  | .condition leaf => condition leaf
termination_by filter => sizeOf filter
decreasing_by
  have hlt := List.sizeOf_lt_of_mem _hmem
  simp_wf
  omega

/-- The parts of a filter: itself, and the parts of its children. -/
inductive Within : Filter → Filter → Prop
  | refl (filter : Filter) : Within filter filter
  | child {part member : Filter} {op : BoolOp} {children : List Filter}
      (hmem : member ∈ children) (hwithin : Within part member) :
      Within part (.group op children)

theorem leaves_subset_of_within {part whole : Filter}
    (hwithin : part.Within whole) : part.leaves ⊆ whole.leaves := by
  induction hwithin with
  | refl => exact List.Subset.refl _
  | child hmem _ ih =>
      intro leaf hleaf
      rw [leaves, allLeaves_eq_flatMap]
      exact List.mem_flatMap.mpr ⟨_, hmem, ih hleaf⟩

theorem groupLevel_nil : groupLevel [] = 0 := rfl

/-- Only a group with children can lie above a limit. -/
theorem ne_nil_of_lt_groupLevel {limit : Nat} {children : List Filter}
    (hlevel : limit < groupLevel children) : children ≠ [] := by
  rintro rfl
  rw [groupLevel_nil] at hlevel
  exact Nat.not_lt_zero _ hlevel

theorem groupLevel_pos {children : List Filter} (hne : children ≠ []) :
    0 < groupLevel children := by
  obtain ⟨child, rest, rfl⟩ := List.exists_cons_of_ne_nil hne
  exact Nat.lt_of_lt_of_le (Nat.succ_pos _) (Nat.le_max_left _ _)

/-- A condition that the default schema admits, whatever the value. -/
def statusIs (value : String) : Filter :=
  .condition ⟨some "Status", "status", "equals", .string value⟩

end Filter

namespace Schema

/-- The property of the condition has a supported type with the condition's
operator. -/
def Admits (schema : Schema) (leaf : Condition) : Prop :=
  ∃ property type, leaf.property = some property ∧
    schema.propertyType? property = some type ∧ type.supports leaf.operator = true

theorem checkCondition_eq_ok_iff (schema : Schema) (leaf : Condition) :
    schema.checkCondition leaf = .ok () ↔ schema.Admits leaf := by
  obtain ⟨property, kind, operator, operand⟩ := leaf
  cases property with
  | none => simp [checkCondition, typeOf, Admits, bind, Except.bind]
  | some property =>
      cases htype : schema.propertyType? property with
      | none => simp [checkCondition, typeOf, Admits, htype, bind, Except.bind]
      | some type =>
          by_cases hsupports : type.supports operator = true
          · simp [checkCondition, typeOf, Admits, htype, hsupports, bind,
              Except.bind, pure, Except.pure]
          · simp [checkCondition, typeOf, Admits, htype, hsupports, bind,
              Except.bind, throw, throwThe, MonadExceptOf.throw]

theorem checkAll_eq_ok_iff (schema : Schema) (filters : List Filter) :
    schema.checkAll filters = .ok () ↔
      ∀ filter ∈ filters, schema.checkFilter filter = .ok () := by
  induction filters with
  | nil => simp [checkAll]
  | cons filter filters ih =>
      cases hcheck : schema.checkFilter filter with
      | error why => simp [checkAll, hcheck, bind, Except.bind]
      | ok done =>
          simp only [checkAll, hcheck, bind, Except.bind, List.forall_mem_cons, ih]
          simp

theorem checkFilter_eq_ok_iff (schema : Schema) (filter : Filter) :
    schema.checkFilter filter = .ok () ↔
      ∀ leaf ∈ filter.leaves, schema.Admits leaf := by
  induction filter using Filter.induct with
  | group op children ih =>
      rw [checkFilter, checkAll_eq_ok_iff, Filter.leaves,
        Filter.allLeaves_eq_flatMap]
      constructor
      · intro hchildren leaf hleaf
        obtain ⟨child, hmem, hleaf⟩ := List.mem_flatMap.mp hleaf
        exact (ih child hmem).mp (hchildren child hmem) leaf hleaf
      · intro hleaves child hmem
        apply (ih child hmem).mpr
        intro leaf hleaf
        exact hleaves leaf (List.mem_flatMap.mpr ⟨child, hmem, hleaf⟩)
  | condition leaf =>
      rw [checkFilter, checkCondition_eq_ok_iff, Filter.leaves]
      simp

/-- An optional filter is valid if all its conditions are admitted. -/
theorem validate_eq_ok_iff (schema : Schema) (filter : Option Filter) :
    schema.validate filter = .ok () ↔
      ∀ tree ∈ filter, ∀ leaf ∈ tree.leaves, schema.Admits leaf := by
  cases filter with
  | none => simp [validate]
  | some tree => simp [validate, checkFilter_eq_ok_iff]

end Schema

end NestedQuery
