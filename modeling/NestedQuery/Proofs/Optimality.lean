import NestedQuery.Proofs.Decomposition
import NestedQuery.Proofs.Filter.Rendering

/-!
# The fewest remote calls

A filter can be taken apart in many ways.  A plan resolves a filter under a limit if
it stands for the filter and none of its queries lies beyond the limit; it is free to
split what lies within.  A group beyond the limit cannot be one query, so every such
plan splits it, and the groups around it.  The built plan splits nothing else, hence
no plan gets by with fewer direct steps.

A merge step without children makes no call at all.  It stands for a group without
children, so there must be none in the filter.
-/

namespace NestedQuery

namespace Plan

/-- A plan that stands for a filter by queries within a limit. -/
structure Resolves (limit : Nat) (filter : Filter) (plan : Plan) : Prop where
  restored_eq : plan.restored = some filter
  level_le : ∀ query ∈ plan.queries, ∀ part ∈ query.filter, part.level ≤ limit

variable {limit : Nat} {filter : Filter}

/-- A built plan resolves its filter. -/
theorem resolves_ofFilter (limit : Nat) (sort : Option ResolvedSort) (filter : Filter) :
    (ofFilter limit sort filter).Resolves limit filter := by
  refine ⟨restored_ofFilter limit sort filter, ?_⟩
  intro query hquery part hpart
  obtain ⟨carried, hcarried, -, hlevel⟩ := part_of_mem_queries_ofFilter hquery
  rw [hcarried] at hpart
  cases hpart
  exact hlevel

theorem Resolves.mono {plan : Plan} (hplan : plan.Resolves limit filter) {higher : Nat}
    (hle : limit ≤ higher) : plan.Resolves higher filter :=
  ⟨hplan.restored_eq, fun query hquery part hpart =>
    Nat.le_trans (hplan.level_le query hquery part hpart) hle⟩

/-- A child of a merge step that resolves a filter resolves what it stands for. -/
theorem Resolves.child {op : BoolOp} {level : Nat} {plans : List Plan}
    (hplan : (merge op level plans).Resolves limit filter) {plan : Plan}
    (hmem : plan ∈ plans) {part : Filter} (hrestored : plan.restored = some part) :
    plan.Resolves limit part :=
  ⟨hrestored, fun query hquery => hplan.level_le query (mem_queries_merge hmem hquery)⟩

/-- Every built plan makes a call. -/
theorem one_le_remoteCalls_ofFilter (limit : Nat) (sort : Option ResolvedSort)
    (filter : Filter) : 1 ≤ (ofFilter limit sort filter).remoteCalls := by
  induction filter using (ofFilter_induct limit) generalizing sort with
  | direct filter hlevel =>
      rw [ofFilter_of_level_le hlevel]
      exact Nat.le_refl 1
  | split op children hlevel ih =>
      obtain ⟨child, rest, rfl⟩ :=
        List.exists_cons_of_ne_nil (Filter.ne_nil_of_lt_groupLevel hlevel)
      rw [ofFilter_of_lt_groupLevel hlevel, remoteCalls, List.map_cons, allRemoteCalls]
      exact Nat.le_add_right_of_le (ih child List.mem_cons_self none)

/-- Plans that stand for some filters make no fewer calls than the built plans of
these filters, if none of them does. -/
theorem allRemoteCalls_ofFilters_le {plans : List Plan} {filters : List Filter}
    (hrestored : allRestored plans = some filters)
    (heach : ∀ plan ∈ plans, ∀ filter ∈ filters, plan.restored = some filter →
      (ofFilter limit none filter).remoteCalls ≤ plan.remoteCalls) :
    allRemoteCalls (ofFilters limit filters) ≤ allRemoteCalls plans := by
  induction plans generalizing filters with
  | nil =>
      cases hrestored
      exact Nat.le_refl _
  | cons plan plans ih =>
      rw [allRestored] at hrestored
      split at hrestored
      · rename_i head tail hhead htail
        cases hrestored
        rw [ofFilters, allRemoteCalls, allRemoteCalls]
        have hfirst := heach plan List.mem_cons_self head List.mem_cons_self hhead
        have hothers := ih htail fun other hother filter hfilter =>
          heach other (List.mem_cons_of_mem _ hother) filter
            (List.mem_cons_of_mem _ hfilter)
        exact Nat.add_le_add hfirst hothers
      · cases hrestored

/-- No plan that resolves a filter makes fewer calls than the built plan. -/
theorem Resolves.remoteCalls_ofFilter_le {plan : Plan}
    (hplan : plan.Resolves limit filter)
    (hgroups : ∀ op, ¬(Filter.group op []).Within filter) (sort : Option ResolvedSort) :
    (ofFilter limit sort filter).remoteCalls ≤ plan.remoteCalls := by
  induction plan using Plan.induct generalizing filter sort with
  | direct own carried level =>
      -- One query for the whole filter, which then lies within the limit.
      have hlevel := hplan.level_le _ (List.mem_singleton_self _) filter hplan.restored_eq
      rw [ofFilter_of_level_le hlevel]
      exact Nat.le_refl 1
  | merge op level plans ih =>
      have hrestored := hplan.restored_eq
      rw [restored, Option.map_eq_some_iff] at hrestored
      obtain ⟨children, hchildren, rfl⟩ := hrestored
      have hcalls : allRemoteCalls (ofFilters limit children) ≤ allRemoteCalls plans := by
        apply allRemoteCalls_ofFilters_le hchildren
        intro plan hmem child hchild hstands
        exact ih plan hmem (hplan.child hmem hstands)
          (fun op hempty => hgroups op (.child hchild hempty)) none
      by_cases hlevel : limit < Filter.groupLevel children
      · rwa [ofFilter, if_pos hlevel]
      · -- The group is one query, where the other plan has split it without need.
        rw [ofFilter, if_neg hlevel]
        cases children with
        | nil => exact absurd (.refl _) (hgroups op)
        | cons child rest =>
            rw [ofFilters, allRemoteCalls] at hcalls
            have hfirst := one_le_remoteCalls_ofFilter limit none child
            exact Nat.le_trans (Nat.le_add_right_of_le hfirst) hcalls

/-- The built plan of a filter whose groups have children resolves it with the fewest
calls of all plans that do, so a higher limit never takes more calls. -/
theorem build_makes_fewest_calls (limit : Nat) (sort : Option ResolvedSort)
    (filter : Filter) (hgroups : ∀ op, ¬(Filter.group op []).Within filter) :
    (build limit sort (some filter)).Resolves limit filter ∧
      (∀ plan : Plan, plan.Resolves limit filter →
        (build limit sort (some filter)).remoteCalls ≤ plan.remoteCalls) ∧
      ∀ higher, limit ≤ higher →
        (build higher sort (some filter)).remoteCalls ≤
          (build limit sort (some filter)).remoteCalls := by
  have hbuilt := resolves_ofFilter limit sort filter
  refine ⟨hbuilt, ?_, ?_⟩
  · intro plan hplan
    exact hplan.remoteCalls_ofFilter_le hgroups sort
  · intro higher hle
    exact (hbuilt.mono hle).remoteCalls_ofFilter_le hgroups sort

/-- A group that only limit two leaves whole. -/
def openAndEither : Filter :=
  .group .and
    [Filter.statusIs "Open", .group .or [Filter.statusIs "Won", Filter.statusIs "Lost"]]

/-- A plan that takes `openAndEither` apart to its conditions. -/
def openAndEitherApart : Plan :=
  .merge .and 2 [.direct (some (Filter.statusIs "Open")) none 0,
    .merge .or 1 [.direct (some (Filter.statusIs "Won")) none 0,
      .direct (some (Filter.statusIs "Lost")) none 0]]

/-- Under limit one, two calls are the fewest, where three are possible. -/
theorem build_makes_fewest_calls_of_two :
    (∀ op, ¬(Filter.group op []).Within openAndEither) ∧
      openAndEitherApart.Resolves 1 openAndEither ∧
      (build 1 none (some openAndEither)).remoteCalls = 2 ∧
      (build 1 none (some openAndEither)).remoteCalls ≤ openAndEitherApart.remoteCalls := by
  have hread : Filter.ofJson openAndEither.toJson = .ok openAndEither := rfl
  have hgroups := (Filter.wellFormed_of_readNode hread).not_nil_within
  have hplan : openAndEitherApart.Resolves 1 openAndEither := ⟨rfl, by decide⟩
  obtain ⟨-, hfewest, -⟩ := build_makes_fewest_calls 1 none openAndEither hgroups
  exact ⟨hgroups, hplan, rfl, hfewest _ hplan⟩

end Plan

end NestedQuery
