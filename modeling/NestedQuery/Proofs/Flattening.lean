import Mathlib.Logic.Relation
import NestedQuery.Proofs.FanOut
import NestedQuery.Proofs.Filter.Rendering

/-!
# Flattening nested groups

A group within a group of the same operator can be replaced by its children.  This
keeps the conditions and their order, and under limit zero every condition is a
direct step of its own, so the same queries are to be sent.  The answers merge to the
same records, because a merge of merges dissolves.

Which of the queries are sent before one fails, and which failure is met first, is up
to the schedule, and the schedule sees the groups: a group that is dissolved may have
given way, or may make the group around it wide.
-/

namespace NestedQuery

namespace Filter

/-- Replacing one group within a group of the same operator by its children. -/
inductive Splices : Filter → Filter → Prop
  | here (op : BoolOp) (left inner right : List Filter) :
      Splices (.group op (left ++ .group op inner :: right))
        (.group op (left ++ inner ++ right))
  | child {before after : Filter} (hchild : Splices before after) (op : BoolOp)
      (left right : List Filter) :
      Splices (.group op (left ++ before :: right)) (.group op (left ++ after :: right))

/-- Replacing any number of groups, one after another. -/
def Flattens : Filter → Filter → Prop :=
  Relation.ReflTransGen Splices

variable {before after : Filter}

theorem Splices.leaves_eq (hsplice : before.Splices after) :
    before.leaves = after.leaves := by
  induction hsplice with
  | here op left inner right => simp [leaves, allLeaves_eq_flatMap]
  | child _ op left right ih => simp [leaves, allLeaves_eq_flatMap, ih]

theorem Splices.wellFormed (hsplice : before.Splices after)
    (hbefore : before.WellFormed) : after.WellFormed := by
  induction hsplice with
  | here op left inner right =>
      cases hbefore with
      | group hne hchildren =>
          simp only [List.forall_mem_append, List.forall_mem_cons] at hchildren
          obtain ⟨hleft, hinner, hright⟩ := hchildren
          cases hinner with
          | group hinner hgrandchildren =>
              apply WellFormed.group
              · simp [hinner]
              · simp only [List.forall_mem_append]
                exact ⟨⟨hleft, hgrandchildren⟩, hright⟩
  | child _ op left right ih =>
      cases hbefore with
      | group hne hchildren =>
          simp only [List.forall_mem_append, List.forall_mem_cons] at hchildren
          obtain ⟨hleft, hbefore, hright⟩ := hchildren
          apply WellFormed.group
          · simp
          · simp only [List.forall_mem_append, List.forall_mem_cons]
            exact ⟨hleft, ih hbefore, hright⟩

theorem Splices.isGroup (hsplice : before.Splices after) :
    before.isGroup = true ∧ after.isGroup = true := by
  cases hsplice <;> exact ⟨rfl, rfl⟩

theorem Flattens.leaves_eq (hflattens : before.Flattens after) :
    before.leaves = after.leaves := by
  induction hflattens with
  | refl => rfl
  | tail _ hsplice ih => exact ih.trans hsplice.leaves_eq

theorem Flattens.wellFormed (hflattens : before.Flattens after)
    (hbefore : before.WellFormed) : after.WellFormed := by
  induction hflattens with
  | refl => exact hbefore
  | tail _ hsplice ih => exact hsplice.wellFormed ih

end Filter

namespace Plan

open NestedQuery.Filter (Splices Flattens)

variable {answer : Answer} {filter before after : Filter}

/-! ## Plans under limit zero -/

/-- Limit zero splits every group that has children. -/
theorem ofFilter_zero {children : List Filter} (hne : children ≠ []) (op : BoolOp)
    (sort : Option ResolvedSort) :
    ofFilter 0 sort (.group op children) =
      .merge op (Filter.groupLevel children) (children.map (ofFilter 0 none)) :=
  ofFilter_of_lt_groupLevel (Filter.groupLevel_pos hne) op sort

theorem evaluate_ofFilter_zero {children : List Filter} (hne : children ≠ [])
    (op : BoolOp) :
    (ofFilter 0 none (.group op children)).evaluate answer =
      (gather (children.map fun child => (ofFilter 0 none child).evaluate answer)).map
        (NestedQuery.merge op) := by
  rw [ofFilter_zero hne, evaluate_merge, List.map_map]
  rfl

/-- A split group carries no sort. -/
theorem ofFilter_zero_unsorted (hfilter : filter.WellFormed)
    (hgroup : filter.isGroup = true) (sort : Option ResolvedSort) :
    ofFilter 0 sort filter = ofFilter 0 none filter := by
  cases hfilter with
  | group hne _ => rw [ofFilter_zero hne, ofFilter_zero hne]
  | condition _ => cases hgroup

theorem orderly_ofFilter_zero {resumption : Resumption} (hfilter : filter.WellFormed)
    (horderly : (ofFilter 0 none filter).Orderly resumption)
    (sort : Option ResolvedSort) : (ofFilter 0 sort filter).Orderly resumption := by
  cases hfilter with
  | @group op _ hne _ => rwa [ofFilter_zero hne, ← ofFilter_zero hne op none]
  | condition _ => exact .direct _ _ _

/-- The query for one condition. -/
def conditionQuery (leaf : Condition) : Query :=
  .ofSort (some (.condition leaf)) none

/-- Limit zero makes one query of each condition, in order. -/
theorem queries_ofFilter_zero (hfilter : filter.WellFormed) :
    (ofFilter 0 none filter).queries = filter.leaves.map conditionQuery := by
  induction hfilter with
  | group hne _ ih =>
      rw [ofFilter_zero hne, queries_merge, Filter.leaves, Filter.allLeaves_eq_flatMap,
        List.map_flatMap, List.flatMap_map]
      exact List.flatMap_congr ih
  | condition _ => rfl

theorem map_filter_queries_ofFilter_zero (hfilter : filter.WellFormed)
    (sort : Option ResolvedSort) :
    (ofFilter 0 sort filter).queries.map Query.filter =
      filter.leaves.map (some ∘ Filter.condition) := by
  cases filter with
  | condition leaf => rfl
  | group op children =>
      rw [ofFilter_zero_unsorted hfilter rfl, queries_ofFilter_zero hfilter, List.map_map]
      rfl

/-! ## Flattened plans -/

/-- A group that was gathered and merged among others can be gathered among them. -/
theorem gather_merge_append (op : BoolOp)
    (left right : List (Except RemoteError (List Record)))
    {inner : List (Except RemoteError (List Record))} (hne : inner ≠ []) :
    (gather (left ++ (gather inner).map (NestedQuery.merge op) :: right)).map
        (NestedQuery.merge op) =
      (gather (left ++ inner ++ right)).map (NestedQuery.merge op) := by
  rw [gather_append, gather_append, gather_append]
  cases gather left with
  | error error => rfl
  | ok lefts =>
      cases hinner : gather inner with
      | error error => rfl
      | ok inners =>
          have hinners : inners ≠ [] := by
            rintro rfl
            exact hne (eq_map_ok_of_gather hinner)
          cases hright : gather right with
          | error error => simp [Except.bind, Except.map, gather, hright]
          | ok rights =>
              simp [Except.bind, Except.map, gather, hright, merge_merge op lefts hinners]

theorem evaluate_of_splices (hsplice : before.Splices after)
    (hbefore : before.WellFormed) :
    (ofFilter 0 none before).evaluate answer =
      (ofFilter 0 none after).evaluate answer := by
  induction hsplice with
  | here op left inner right =>
      cases hbefore with
      | group hne hchildren =>
          cases hchildren (.group op inner) (by simp) with
          | group hinner _ =>
              rw [evaluate_ofFilter_zero hne, evaluate_ofFilter_zero (by simp [hinner]),
                List.map_append, List.map_cons, evaluate_ofFilter_zero hinner,
                gather_merge_append op _ _ (by simp [hinner])]
              simp
  | child hchild op left right ih =>
      cases hbefore with
      | group hne hchildren =>
          rw [evaluate_ofFilter_zero hne, evaluate_ofFilter_zero (by simp),
            List.map_append, List.map_append, List.map_cons, List.map_cons,
            ih (hchildren _ (by simp))]

/-- Flattening keeps the queries of a plan and what they come to. -/
theorem evaluate_of_flattens (hflattens : before.Flattens after)
    (hbefore : before.WellFormed) (sort : Option ResolvedSort) :
    (ofFilter 0 sort before).evaluate answer = (ofFilter 0 sort after).evaluate answer ∧
      (ofFilter 0 sort before).queries = (ofFilter 0 sort after).queries := by
  induction hflattens with
  | refl => exact ⟨rfl, rfl⟩
  | @tail middle after hflattens hsplice ih =>
      have hmiddle := Flattens.wellFormed hflattens hbefore
      obtain ⟨hgroup, hgroup'⟩ := hsplice.isGroup
      rw [ih.1, ih.2, ofFilter_zero_unsorted hmiddle hgroup,
        ofFilter_zero_unsorted (hsplice.wellFormed hmiddle) hgroup',
        evaluate_of_splices hsplice hmiddle, queries_ofFilter_zero hmiddle,
        queries_ofFilter_zero (hsplice.wellFormed hmiddle), hsplice.leaves_eq]
      exact ⟨rfl, rfl⟩

end Plan

/-! ## Flattened resolutions -/

/-- A resolution that keeps to a list of queries: it sends no others, none twice, and
all of them if it succeeds; otherwise it passes on the failure of one it has sent. -/
structure Answer.KeepsTo (answer : Answer) (queries : List Query)
    (resolution : Traced (Except ResolveError (List Record))) : Prop where
  sent_subperm : resolution.effects.sent.Subperm queries
  sent_perm : ∀ records, resolution.value = .ok records →
    resolution.effects.sent.Perm queries
  failure : ∀ failure, resolution.value = .error (.remote failure) →
    ∃ query ∈ resolution.effects.sent, answer.failure? query = some failure

namespace Service

variable {service : Service} {filter : Option Filter} {sort : Option SortRequest}
variable {limit : Nat}

theorem keepsTo_resolve {plan : Plan}
    (hplan : (service.plan filter sort limit).value = .ok plan) :
    service.answer.KeepsTo plan.queries (service.resolve filter sort limit) where
  sent_subperm := sent_resolve_subperm hplan
  sent_perm _ := sent_resolve_perm hplan
  failure _ := exists_sent_of_resolve_eq_error hplan

theorem keepsTo_resolve_rejected {why : Rejection}
    (hplan : (service.plan filter sort limit).value = .error why) (queries : List Query) :
    service.answer.KeepsTo queries (service.resolve filter sort limit) := by
  have hvalue := value_resolve_rejected hplan
  have hsent := sent_resolve_rejected hplan
  constructor
  · rw [hsent]
    exact List.nil_subperm
  · intro records hdone
    rw [hvalue] at hdone
    cases hdone
  · intro failure hfailed
    rw [hvalue] at hfailed
    cases hfailed

end Service

/-- Under limit zero, flattening a filter keeps the queries of its resolution, one for
each condition, and the records or the rejection that it comes to.  Two resolutions
that fail may have sent other queries before, and pass on the failure of another one;
if both plans are orderly, they send the same queries in the same order and fail
alike. -/
theorem flattening_keeps_resolution (service : Service) (table : AnswerTable)
    {filter flat : Filter} (sort : Option SortRequest)
    (hclient : service.answer = table.answer) (hread : filter.IsRead)
    (hvalid : service.schema.validate (some filter) = .ok ())
    (hflattens : filter.Flattens flat) :
    (∀ records, (service.resolve (some filter) sort 0).value = .ok records ↔
        (service.resolve (some flat) sort 0).value = .ok records) ∧
      (∀ why, (service.resolve (some filter) sort 0).value = .error (.rejected why) ↔
        (service.resolve (some flat) sort 0).value = .error (.rejected why)) ∧
      (∃ queries : List Query,
        queries.map Query.filter = filter.leaves.map (some ∘ Filter.condition) ∧
          table.answer.KeepsTo queries (service.resolve (some filter) sort 0) ∧
          table.answer.KeepsTo queries (service.resolve (some flat) sort 0)) ∧
      ((Plan.build 0 none (some filter)).Orderly service.resumption →
        (Plan.build 0 none (some flat)).Orderly service.resumption →
        (service.resolve (some filter) sort 0).value =
            (service.resolve (some flat) sort 0).value ∧
          (service.resolve (some filter) sort 0).effects.sent =
            (service.resolve (some flat) sort 0).effects.sent) := by
  have hfilter := hread.wellFormed
  have hflat := hflattens.wellFormed hfilter
  have hadmits : ∀ leaf ∈ filter.leaves, service.schema.Admits leaf :=
    (Schema.validate_eq_ok_iff _ _).mp hvalid filter rfl
  have hadmits' : ∀ leaf ∈ flat.leaves, service.schema.Admits leaf :=
    hflattens.leaves_eq ▸ hadmits
  cases hsort : service.schema.resolveSort sort with
  | error why =>
      have hplan := @Service.plan_of_refused_sort service sort 0 _ _ hadmits hsort
      have hplan' := @Service.plan_of_refused_sort service sort 0 _ _ hadmits' hsort
      have hqueries := Plan.map_filter_queries_ofFilter_zero hfilter none
      have hvalue : (service.resolve (some filter) sort 0).value =
          (service.resolve (some flat) sort 0).value := by
        rw [Service.value_resolve_rejected hplan, Service.value_resolve_rejected hplan']
      refine ⟨?_, ?_, ⟨_, hqueries, ?_, ?_⟩, ?_⟩
      · simp [hvalue]
      · simp [hvalue]
      · exact hclient ▸ Service.keepsTo_resolve_rejected hplan _
      · exact hclient ▸ Service.keepsTo_resolve_rejected hplan' _
      · intro _ _
        rw [Service.sent_resolve_rejected hplan, Service.sent_resolve_rejected hplan']
        exact ⟨hvalue, rfl⟩
  | ok sorted =>
      have hplan := @Service.plan_of_admitted service sort 0 _ _ hadmits hsort
      have hplan' := @Service.plan_of_admitted service sort 0 _ _ hadmits' hsort
      obtain ⟨heval, hqueries⟩ :=
        @Plan.evaluate_of_flattens service.answer _ _ hflattens hfilter sorted
      have hkeeps := Service.keepsTo_resolve hplan
      have hkeeps' := Service.keepsTo_resolve hplan'
      rw [Plan.build, ← hqueries] at hkeeps'
      refine ⟨?_, ?_, ⟨_, Plan.map_filter_queries_ofFilter_zero hfilter sorted, ?_, ?_⟩, ?_⟩
      · intro records
        rw [Service.resolve_eq_ok_iff hplan, Service.resolve_eq_ok_iff hplan', Plan.build,
          Plan.build, heval]
      · intro why
        exact iff_of_false (Service.resolve_ne_rejected hplan why)
          (Service.resolve_ne_rejected hplan' why)
      · exact hclient ▸ hkeeps
      · exact hclient ▸ hkeeps'
      · intro horderly horderly'
        obtain ⟨hvalue, hsent⟩ := Service.resolve_of_orderly hclient hplan
          (Plan.orderly_ofFilter_zero hfilter horderly sorted)
        obtain ⟨hvalue', hsent'⟩ := Service.resolve_of_orderly hclient hplan'
          (Plan.orderly_ofFilter_zero hflat horderly' sorted)
        rw [hvalue, hvalue', hsent, hsent', ← hclient, Plan.build, Plan.build, heval,
          hqueries]
        exact ⟨rfl, rfl⟩

/-- An or-group at the end of an or-group. -/
def nestedLostOrWon : Filter :=
  .group .or [Filter.statusIs "Lost", .group .or [Filter.statusIs "Won"]]

/-- Flattened or not, the group fails as the first of its conditions. -/
theorem flattening_keeps_resolution_narrow :
    (failingService.resolve (some nestedLostOrWon) none 0).value =
        (failingService.resolve
          (some (.group .or [Filter.statusIs "Lost", Filter.statusIs "Won"]))
          none 0).value ∧
      (failingService.resolve (some nestedLostOrWon) none 0).effects.sent =
        (failingService.resolve
          (some (.group .or [Filter.statusIs "Lost", Filter.statusIs "Won"]))
          none 0).effects.sent := by
  have hread : nestedLostOrWon.IsRead := Or.inl ⟨nestedLostOrWon.toJson, rfl⟩
  have hflattens : nestedLostOrWon.Flattens
      (.group .or [Filter.statusIs "Lost", Filter.statusIs "Won"]) :=
    .single (.here .or [Filter.statusIs "Lost"] [Filter.statusIs "Won"] [])
  obtain ⟨-, -, -, horderly⟩ := flattening_keeps_resolution failingService failingAnswers
    none rfl hread rfl hflattens
  have hnarrow : (Plan.build 0 none (some nestedLostOrWon)).Narrow := by decide
  have hnarrow' : (Plan.build 0 none (some (.group .or
      [Filter.statusIs "Lost", Filter.statusIs "Won"]))).Narrow := by decide
  exact horderly (hnarrow.orderly _) (hnarrow'.orderly _)

/-- The filter `crossingFilter` with one of its two innermost groups dissolved. -/
def uncrossedFilter : Filter :=
  .group .and
    [.group .or
      (List.replicate 31 (Filter.statusIs "Open") ++
        .group .or (List.replicate 31 (Filter.statusIs "Open")) ::
          List.replicate 29 (Filter.statusIs "Lost")),
      Filter.statusIs "Won"]

/-- Once one of its groups is dissolved, the wide group no longer gives way, so the
condition to its right is sent after all of it, and another failure is the first. -/
theorem flattening_out_of_order :
    crossingFilter.IsRead ∧
      failingService.schema.validate (some crossingFilter) = .ok () ∧
      crossingFilter.Flattens uncrossedFilter ∧
      (failingService.resolve (some crossingFilter) none 0).value =
        .error (.remote (.rejected "second")) ∧
      (failingService.resolve (some uncrossedFilter) none 0).value =
        .error (.remote (.rejected "first")) ∧
      (failingService.resolve (some crossingFilter) none 0).effects.sent ≠
        (failingService.resolve (some uncrossedFilter) none 0).effects.sent := by
  have hread : Filter.ofJson? crossingFilter.toJson = .ok (some crossingFilter) := by
    decide +kernel
  have hsplice : Filter.Splices crossingFilter uncrossedFilter :=
    .child (.here .or [] (List.replicate 31 (Filter.statusIs "Open"))
      (.group .or (List.replicate 31 (Filter.statusIs "Open")) ::
        List.replicate 29 (Filter.statusIs "Lost"))) .and [] [Filter.statusIs "Won"]
  refine ⟨Or.inl ⟨_, hread⟩, ?_, .single hsplice, ?_⟩
  · decide +kernel
  · decide +kernel

end NestedQuery
