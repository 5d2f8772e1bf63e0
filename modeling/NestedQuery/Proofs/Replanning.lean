import NestedQuery.Proofs.Optimality

/-!
# Planning again

The direct steps of a plan carry filters of their own, so each can be planned again,
with the sort it carries, under another limit.  In a built plan they carry parts within
its limit: a higher limit leaves them as they are, and a lower one splits what it would
have split in the whole filter.  So planning again comes to planning once, under the
lowest of the limits.
-/

namespace NestedQuery

namespace Plan

mutual

/-- The plan with each direct step planned again under a limit. -/
def replanned (limit : Nat) : Plan → Plan
  | .direct filter sort _ => build limit sort filter
  | .merge op level children => .merge op level (allReplanned limit children)

def allReplanned (limit : Nat) : List Plan → List Plan
  | [] => []
  | plan :: plans => plan.replanned limit :: allReplanned limit plans

end

theorem allReplanned_eq_map (limit : Nat) (plans : List Plan) :
    allReplanned limit plans = plans.map (replanned limit) := by
  induction plans with
  | nil => rfl
  | cons plan plans ih => rw [allReplanned, ih, List.map_cons]

theorem replanned_merge (limit : Nat) (op : BoolOp) (level : Nat) (children : List Plan) :
    (merge op level children).replanned limit =
      .merge op level (children.map (replanned limit)) := by
  rw [replanned, allReplanned_eq_map]

variable {limit : Nat} {sort : Option ResolvedSort}

/-- Limits that leave a filter whole plan it alike. -/
theorem ofFilter_eq_of_level_le {other : Nat} {filter : Filter}
    (hlimit : filter.level ≤ limit) (hother : filter.level ≤ other) :
    ofFilter limit sort filter = ofFilter other sort filter := by
  rw [ofFilter_of_level_le hlimit, ofFilter_of_level_le hother]

/-- Of two limits that a filter is planned under in turn, the lower one counts. -/
theorem replanned_ofFilter (first limit : Nat) (sort : Option ResolvedSort)
    (filter : Filter) :
    (ofFilter first sort filter).replanned limit =
      ofFilter (min first limit) sort filter := by
  induction filter using (ofFilter_induct first) generalizing sort with
  | direct filter hlevel =>
      rw [ofFilter_of_level_le hlevel, replanned, build]
      by_cases hle : first ≤ limit
      · rw [Nat.min_eq_left hle]
        exact ofFilter_eq_of_level_le (Nat.le_trans hlevel hle) hlevel
      · rw [Nat.min_eq_right (Nat.le_of_not_le hle)]
  | split op children hlevel ih =>
      have hlower : min first limit < Filter.groupLevel children :=
        Nat.lt_of_le_of_lt (Nat.min_le_left first limit) hlevel
      rw [ofFilter_of_lt_groupLevel hlevel, ofFilter_of_lt_groupLevel hlower,
        replanned_merge, List.map_map]
      congr 1
      apply List.map_congr_left
      intro child hmem
      exact ih child hmem none

theorem replanned_build (first limit : Nat) (sort : Option ResolvedSort)
    (filter : Option Filter) :
    (build first sort filter).replanned limit = build (min first limit) sort filter := by
  cases filter with
  | none => rfl
  | some filter => exact replanned_ofFilter first limit sort filter

/-- Planning under any number of limits, one after the other, comes to planning under
the lowest. -/
theorem foldl_replanned_build (first : Nat) (limits : List Nat)
    (sort : Option ResolvedSort) (filter : Option Filter) :
    limits.foldl (fun plan limit => plan.replanned limit) (build first sort filter) =
      build (limits.foldl min first) sort filter := by
  induction limits generalizing first with
  | nil => rfl
  | cons limit limits ih =>
      rw [List.foldl_cons, List.foldl_cons, replanned_build]
      exact ih (min first limit)

/-- A direct step of a built plan is what its limit makes of the filter it carries. -/
theorem build_of_direct_within {filter own : Option Filter}
    {carried : Option ResolvedSort} {level : Nat}
    (hstep : (Plan.direct own carried level).Within (build limit sort filter)) :
    build limit carried own = .direct own carried level := by
  cases filter with
  | none =>
      cases hstep
      rfl
  | some filter =>
      obtain ⟨part, sent, -, hplan⟩ := exists_part_of_within hstep
      have hlevel : part.level ≤ limit := by
        rw [← @isDirect_ofFilter_iff limit sent, ← hplan, isDirect]
      rw [ofFilter_of_level_le hlevel] at hplan
      cases hplan
      exact ofFilter_of_level_le hlevel carried

/-- Planning under a limit and then planning every direct step under one that is no
higher comes to planning under the latter at once.  In particular the limit of a plan
leaves each of its direct steps as it is. -/
theorem build_composes {lower upper : Nat} (hle : lower ≤ upper)
    (sort : Option ResolvedSort) (filter : Option Filter) :
    build lower sort filter = (build upper sort filter).replanned lower ∧
      ∀ own carried level,
        (Plan.direct own carried level).Within (build lower sort filter) →
        build lower carried own = .direct own carried level := by
  constructor
  · rw [replanned_build, Nat.min_eq_right hle]
  · intro own carried level hstep
    exact build_of_direct_within hstep

/-- The plan of `openAndEither` under limit one keeps the inner group whole; planning it
again without nesting takes it apart. -/
theorem build_composes_to_conditions :
    0 ≤ 1 ∧
      build 1 (some ⟨"Name", .ascending⟩) (some openAndEither) =
        .merge .and 2 [.direct (some (Filter.statusIs "Open")) none 0,
          .direct (some (.group .or
            [Filter.statusIs "Won", Filter.statusIs "Lost"])) none 1] ∧
      (build 1 (some ⟨"Name", .ascending⟩) (some openAndEither)).replanned 0 =
        openAndEitherApart ∧
      build 0 none (some (Filter.statusIs "Won")) =
        .direct (some (Filter.statusIs "Won")) none 0 := by
  have hle : 0 ≤ 1 := Nat.zero_le 1
  obtain ⟨hplan, hsteps⟩ :=
    build_composes hle (some ⟨"Name", .ascending⟩) (some openAndEither)
  have hwon : (Plan.direct (some (Filter.statusIs "Won")) none 0).Within
      (build 0 (some ⟨"Name", .ascending⟩) (some openAndEither)) := by
    refine .child (List.mem_cons_of_mem _ List.mem_cons_self) ?_
    exact .child List.mem_cons_self (.refl _)
  exact ⟨hle, rfl, hplan.symm, hsteps _ _ _ hwon⟩

end Plan

end NestedQuery
