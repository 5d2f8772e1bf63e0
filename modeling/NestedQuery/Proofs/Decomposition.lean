import NestedQuery.Proofs.Planning

/-!
# Decomposition

A plan stands for a filter: a direct step for the filter it carries, a merge step
for the group of what its children stand for.  Every step of a built plan is the
plan of a part of the filter under the same limit, unsorted unless it is the
whole plan.  So whatever holds of the top of a built plan holds of all its steps:
it stands for the part it was built from, it records the level of that part, and
it is direct if that level is within the limit.
-/

namespace NestedQuery

namespace Plan

mutual

/-- The filter a plan stands for.  There is none if a direct step below a merge
step carries no filter. -/
def restored : Plan → Option Filter
  | .direct filter _ _ => filter
  | .merge op _ children => (allRestored children).map (.group op)

def allRestored : List Plan → Option (List Filter)
  | [] => some []
  | plan :: plans =>
      match plan.restored, allRestored plans with
      | some filter, some filters => some (filter :: filters)
      | _, _ => none

end

/-- The nesting level that a step records. -/
def recordedLevel : Plan → Nat
  | .direct _ _ level => level
  | .merge _ level _ => level

/-- The sort that a step carries. -/
def sort? : Plan → Option ResolvedSort
  | .direct _ sort _ => sort
  | .merge _ _ _ => none

/-- The steps of a plan: the plan itself, and the steps of its children. -/
inductive Within : Plan → Plan → Prop
  | refl (plan : Plan) : Within plan plan
  | child {step member : Plan} {op : BoolOp} {level : Nat} {children : List Plan}
      (hmem : member ∈ children) (hwithin : Within step member) :
      Within step (.merge op level children)

/-! ## The top of a built plan -/

variable {limit : Nat} {sort : Option ResolvedSort} {filter : Filter}

theorem allRestored_map {plan : Filter → Plan} {filters : List Filter}
    (hplan : ∀ filter ∈ filters, (plan filter).restored = some filter) :
    allRestored (filters.map plan) = some filters := by
  induction filters with
  | nil => rfl
  | cons filter filters ih =>
      obtain ⟨hfilter, hfilters⟩ := List.forall_mem_cons.mp hplan
      rw [List.map_cons, allRestored, hfilter, ih hfilters]

theorem restored_ofFilter (limit : Nat) (sort : Option ResolvedSort)
    (filter : Filter) : (ofFilter limit sort filter).restored = some filter := by
  induction filter using (ofFilter_induct limit) generalizing sort with
  | direct filter hlevel => rw [ofFilter_of_level_le hlevel, restored]
  | split op children hlevel ih =>
      rw [ofFilter_of_lt_groupLevel hlevel, restored,
        allRestored_map fun child hmem => ih child hmem none, Option.map_some]

theorem recordedLevel_ofFilter (limit : Nat) (sort : Option ResolvedSort)
    (filter : Filter) :
    (ofFilter limit sort filter).recordedLevel = filter.level := by
  cases filter using (ofFilter_induct limit) with
  | direct filter hlevel => rw [ofFilter_of_level_le hlevel, recordedLevel]
  | split op children hlevel _ =>
      rw [ofFilter_of_lt_groupLevel hlevel, recordedLevel, Filter.level]

/-- A built plan is direct exactly if the filter lies within the limit. -/
theorem isDirect_ofFilter_iff :
    (ofFilter limit sort filter).isDirect = true ↔ filter.level ≤ limit := by
  cases filter using (ofFilter_induct limit) with
  | direct filter hlevel =>
      rw [ofFilter_of_level_le hlevel, isDirect]
      exact iff_of_true rfl hlevel
  | split op children hlevel _ =>
      rw [ofFilter_of_lt_groupLevel hlevel, isDirect, Filter.level]
      exact iff_of_false Bool.false_ne_true (Nat.not_le.mpr hlevel)

theorem sort?_ofFilter (limit : Nat) (sort : Option ResolvedSort) (filter : Filter) :
    (ofFilter limit sort filter).sort? =
      if (ofFilter limit sort filter).isDirect then sort else none := by
  cases hplan : ofFilter limit sort filter with
  | merge op level children => rfl
  | direct own carried level =>
      have hlevel : filter.level ≤ limit := by
        rw [← @isDirect_ofFilter_iff limit sort, hplan, isDirect]
      rw [ofFilter_of_level_le hlevel] at hplan
      cases hplan
      rfl

/-! ## The steps of a built plan -/

/-- A step of a built plan is the whole plan, or the unsorted plan of a part of a
filter that had to be split. -/
theorem eq_ofFilter_of_within {step : Plan}
    (hstep : step.Within (ofFilter limit sort filter)) :
    step = ofFilter limit sort filter ∨
      (limit < filter.level ∧
        ∃ part, part.Within filter ∧ step = ofFilter limit none part) := by
  induction filter using (ofFilter_induct limit) generalizing sort with
  | direct filter hlevel =>
      rw [ofFilter_of_level_le hlevel] at hstep ⊢
      cases hstep
      exact Or.inl rfl
  | split op children hlevel ih =>
      rw [ofFilter_of_lt_groupLevel hlevel] at hstep ⊢
      cases hstep with
      | refl => exact Or.inl rfl
      | child hmem hwithin =>
          -- Below a split the sort is gone, whichever part the step belongs to.
          right
          obtain ⟨child, hchild, rfl⟩ := List.mem_map.mp hmem
          rw [Filter.level]
          rcases ih child hchild hwithin with rfl | ⟨-, part, hpart, rfl⟩
          · exact ⟨hlevel, child, .child hchild (.refl child), rfl⟩
          · exact ⟨hlevel, part, .child hchild hpart, rfl⟩

theorem exists_part_of_within {step : Plan}
    (hstep : step.Within (ofFilter limit sort filter)) :
    ∃ part own, part.Within filter ∧ step = ofFilter limit own part := by
  rcases eq_ofFilter_of_within hstep with rfl | ⟨-, part, hpart, rfl⟩
  · exact ⟨filter, sort, .refl filter, rfl⟩
  · exact ⟨part, none, hpart, rfl⟩

theorem sort?_of_within {step : Plan}
    (hstep : step.Within (ofFilter limit sort filter)) :
    step.sort? = if (ofFilter limit sort filter).isDirect then sort else none := by
  rcases eq_ofFilter_of_within hstep with rfl | ⟨hlevel, part, -, rfl⟩
  · exact sort?_ofFilter limit sort filter
  · have hsplit : ¬(ofFilter limit sort filter).isDirect = true := by
      rw [isDirect_ofFilter_iff]
      exact Nat.not_le.mpr hlevel
    rw [sort?_ofFilter, if_neg hsplit, ite_self]

/-- A built plan stands for the filter it was built from.  Every step stands for a
part of it and records the level of the part; a direct step carries the part,
which is within the limit, and a merge step has children and stands for a part
beyond the limit.  The sort is carried by a direct plan, and by no step of any
other. -/
theorem build_stands_for_filter (limit : Nat) (sort : Option ResolvedSort)
    (filter : Filter) :
    (build limit sort (some filter)).restored = some filter ∧
      (∀ step : Plan, step.Within (build limit sort (some filter)) →
        ∃ part : Filter, step.restored = some part ∧ part.Within filter ∧
          step.recordedLevel = part.level ∧
          match step with
          | .direct own _ _ => own = some part ∧ part.level ≤ limit
          | .merge _ _ children => children ≠ [] ∧ limit < part.level) ∧
      ∀ step : Plan, step.Within (build limit sort (some filter)) →
        step.sort? =
          if (build limit sort (some filter)).isDirect then sort else none := by
  rw [build]
  refine ⟨restored_ofFilter limit sort filter, ?_, fun step => sort?_of_within⟩
  intro step hstep
  obtain ⟨part, own, hpart, rfl⟩ := exists_part_of_within hstep
  refine ⟨part, restored_ofFilter limit own part, hpart,
    recordedLevel_ofFilter limit own part, ?_⟩
  cases part using (ofFilter_induct limit) with
  | direct part hlevel =>
      rw [ofFilter_of_level_le hlevel]
      exact ⟨rfl, hlevel⟩
  | split op children hlevel _ =>
      rw [ofFilter_of_lt_groupLevel hlevel]
      refine ⟨?_, hlevel⟩
      exact mt List.map_eq_nil_iff.mp (Filter.ne_nil_of_lt_groupLevel hlevel)

/-- A group without children is never split. -/
example (op : BoolOp) (sort : Option ResolvedSort) :
    build 0 sort (some (.group .or [.group op []])) =
      .merge .or 1 [.direct (some (.group op [])) none 0] := rfl

end Plan

end NestedQuery
