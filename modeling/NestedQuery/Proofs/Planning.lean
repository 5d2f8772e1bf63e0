import NestedQuery.Proofs.Filter.Tree
import NestedQuery.Query.Plan

/-!
# Planning

Planning recurs on the part of a filter that lies above the limit: a filter
within the limit is one direct step, and a group above it is split, which leaves
it at least one child.  The principle `ofFilter_induct` follows this recursion,
and the properties of built plans come from it: their merge steps have children,
their queries carry parts of the filter that are within the limit, and a sort is
carried by the one query of an unsplit filter only.
-/

namespace NestedQuery

namespace Plan

/-- Induction with one hypothesis for all children of a merge step. -/
@[elab_as_elim]
theorem induct {motive : Plan → Prop}
    (direct : ∀ filter sort level, motive (.direct filter sort level))
    (merge : ∀ op level children, (∀ child ∈ children, motive child) →
      motive (.merge op level children)) : ∀ plan, motive plan
  | .direct filter sort level => direct filter sort level
  | .merge op level children =>
      merge op level children fun child _hmem => induct direct merge child
termination_by plan => sizeOf plan
decreasing_by
  have hlt := List.sizeOf_lt_of_mem _hmem
  simp_wf
  omega

theorem ofFilters_eq_map (limit : Nat) (filters : List Filter) :
    ofFilters limit filters = filters.map (ofFilter limit none) := by
  induction filters with
  | nil => rfl
  | cons filter filters ih => rw [ofFilters, ih, List.map_cons]

theorem allQueries_eq_flatMap (plans : List Plan) :
    allQueries plans = plans.flatMap queries := by
  induction plans with
  | nil => rfl
  | cons plan plans ih => rw [allQueries, ih, List.flatMap_cons]

theorem queries_merge (op : BoolOp) (level : Nat) (children : List Plan) :
    (merge op level children).queries = children.flatMap queries := by
  rw [queries, allQueries_eq_flatMap]

/-- The queries of a child are queries of the group. -/
theorem mem_queries_merge {op : BoolOp} {level : Nat} {children : List Plan}
    {child : Plan} (hchild : child ∈ children) {query : Query}
    (hquery : query ∈ child.queries) : query ∈ (merge op level children).queries := by
  rw [queries_merge]
  exact List.mem_flatMap.mpr ⟨child, hchild, hquery⟩

theorem length_queries (plan : Plan) : plan.queries.length = plan.remoteCalls := by
  induction plan using Plan.induct with
  | direct filter sort level => rfl
  | merge op level children ih =>
      rw [queries_merge, remoteCalls]
      induction children with
      | nil => rfl
      | cons child children ihrest =>
          obtain ⟨hchild, hrest⟩ := List.forall_mem_cons.mp ih
          rw [List.flatMap_cons, List.length_append, allRemoteCalls, hchild,
            ihrest hrest]

theorem ofFilter_of_level_le {limit : Nat} {filter : Filter}
    (hlevel : filter.level ≤ limit) (sort : Option ResolvedSort) :
    ofFilter limit sort filter = .direct (some filter) sort filter.level := by
  cases filter with
  | group op children =>
      rw [Filter.level] at hlevel
      rw [ofFilter, if_neg (Nat.not_lt.mpr hlevel), Filter.level]
  | condition leaf => rw [ofFilter, Filter.level]

theorem ofFilter_of_lt_groupLevel {limit : Nat} {children : List Filter}
    (hlevel : limit < Filter.groupLevel children) (op : BoolOp)
    (sort : Option ResolvedSort) :
    ofFilter limit sort (.group op children) =
      .merge op (Filter.groupLevel children) (children.map (ofFilter limit none)) := by
  rw [ofFilter, if_pos hlevel, ofFilters_eq_map]

/-- Induction along the recursion of planning. -/
@[elab_as_elim]
theorem ofFilter_induct (limit : Nat) {motive : Filter → Prop}
    (direct : ∀ filter, filter.level ≤ limit → motive filter)
    (split : ∀ op children, limit < Filter.groupLevel children →
      (∀ child ∈ children, motive child) → motive (.group op children))
    (filter : Filter) : motive filter := by
  induction filter using Filter.induct with
  | group op children ih =>
      by_cases hlevel : limit < Filter.groupLevel children
      · exact split op children hlevel ih
      · apply direct
        rw [Filter.level]
        exact Nat.not_lt.mp hlevel
  | condition leaf => exact direct _ (Nat.zero_le limit)

/-- Every merge step has a child. -/
inductive Branching : Plan → Prop
  | direct (filter : Option Filter) (sort : Option ResolvedSort) (level : Nat) :
      Branching (.direct filter sort level)
  | merge {op : BoolOp} {level : Nat} {children : List Plan}
      (hne : children ≠ []) (hchildren : ∀ child ∈ children, Branching child) :
      Branching (.merge op level children)

theorem branching_ofFilter (limit : Nat) (sort : Option ResolvedSort)
    (filter : Filter) : (ofFilter limit sort filter).Branching := by
  induction filter using (ofFilter_induct limit) generalizing sort with
  | direct filter hlevel =>
      rw [ofFilter_of_level_le hlevel]
      exact .direct _ _ _
  | split op children hlevel ih =>
      rw [ofFilter_of_lt_groupLevel hlevel]
      apply Branching.merge
      · have hne := Filter.ne_nil_of_lt_groupLevel hlevel
        exact fun hnil => hne (List.map_eq_nil_iff.mp hnil)
      · intro child hmem
        obtain ⟨filter, hfilter, rfl⟩ := List.mem_map.mp hmem
        exact ih filter hfilter none

theorem branching_build (limit : Nat) (sort : Option ResolvedSort)
    (filter : Option Filter) : (build limit sort filter).Branching := by
  cases filter with
  | none => exact .direct _ _ _
  | some filter => exact branching_ofFilter limit sort filter

/-- A query of a built plan carries a part of the filter within the limit. -/
theorem part_of_mem_queries_ofFilter {limit : Nat} {sort : Option ResolvedSort}
    {filter : Filter} {query : Query}
    (hquery : query ∈ (ofFilter limit sort filter).queries) :
    ∃ part, query.filter = some part ∧ part.Within filter ∧ part.level ≤ limit := by
  induction filter using (ofFilter_induct limit) generalizing sort with
  | direct filter hlevel =>
      rw [ofFilter_of_level_le hlevel, queries, List.mem_singleton] at hquery
      subst hquery
      exact ⟨filter, rfl, .refl filter, hlevel⟩
  | split op children hlevel ih =>
      rw [ofFilter_of_lt_groupLevel hlevel, queries_merge] at hquery
      obtain ⟨plan, hplan, hquery⟩ := List.mem_flatMap.mp hquery
      obtain ⟨child, hchild, rfl⟩ := List.mem_map.mp hplan
      obtain ⟨part, hfilter, hwithin, hle⟩ := ih child hchild hquery
      exact ⟨part, hfilter, .child hchild hwithin, hle⟩

theorem sorts_of_mem_queries_unsorted {limit : Nat} {filter : Filter}
    {query : Query} (hquery : query ∈ (ofFilter limit none filter).queries) :
    query.sorts = [] := by
  induction filter using (ofFilter_induct limit) with
  | direct filter hlevel =>
      rw [ofFilter_of_level_le hlevel, queries, List.mem_singleton] at hquery
      subst hquery
      rfl
  | split op children hlevel ih =>
      rw [ofFilter_of_lt_groupLevel hlevel, queries_merge] at hquery
      obtain ⟨plan, hplan, hquery⟩ := List.mem_flatMap.mp hquery
      obtain ⟨child, hchild, rfl⟩ := List.mem_map.mp hplan
      exact ih child hchild hquery

/-- A built plan is the one query of the whole filter with the sort, or none of
its queries carries a sort. -/
theorem queries_build (limit : Nat) (sort : Option ResolvedSort)
    (filter : Option Filter) :
    (build limit sort filter).queries = [.ofSort filter sort] ∨
      ∀ query ∈ (build limit sort filter).queries, query.sorts = [] := by
  cases filter with
  | none => exact Or.inl rfl
  | some filter =>
      rw [build]
      cases filter using (ofFilter_induct limit) with
      | direct filter hlevel =>
          left
          rw [ofFilter_of_level_le hlevel, queries]
      | split op children hlevel _ =>
          right
          intro query hquery
          rw [ofFilter_of_lt_groupLevel hlevel, queries_merge] at hquery
          obtain ⟨plan, hplan, hquery⟩ := List.mem_flatMap.mp hquery
          obtain ⟨child, hchild, rfl⟩ := List.mem_map.mp hplan
          exact sorts_of_mem_queries_unsorted hquery

end Plan

end NestedQuery
