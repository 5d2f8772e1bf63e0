import NestedQuery.Proofs.Resolution.Progress
import NestedQuery.Resolution.Service

/-!
# Resolutions and their plans

A plan is made if the filter is valid and the sort resolves, and making it sends
nothing.  A resolution that is rejected sends nothing either; any other one sends
what the execution of its plan sends and answers what that answers.  So it
succeeds if the evaluation of the plan does, with the same records.
-/

namespace NestedQuery

namespace Service

variable {service : Service} {filter : Option Filter} {sort : Option SortRequest}
variable {limit : Nat}

theorem sent_reject {A : Type} (why : Rejection) :
    (@reject A why).effects.sent = [] := rfl

theorem value_reject {A : Type} (why : Rejection) :
    (@reject A why).value = .error why := rfl

/-- The effects of a rejection. -/
def rejecting (why : Rejection) : Effects :=
  { counted := { filtersRejected := 1 }
    logged := [⟨.warn, Log.Event.filterRejected.name,
      [("code", why.code), ("reason", why.message)]⟩] }

/-- The effects of logging one entry. -/
def noting (entry : Log.Entry) : Effects := { logged := [entry] }

/-- The effects of closing a resolution that has come to records. -/
def returning (service : Service) (limit : Nat) (plan : Plan) (records : List Record) :
    Effects :=
  { counted := { resolutions := 1, recordsReturned := records.length.toUInt64 }
    logged := [(scope limit).closing (.complete service.elapsed
      [("records", toString records.length),
        ("remote_calls", toString plan.remoteCalls)])] }

theorem effects_reject {A : Type} (why : Rejection) :
    (@reject A why).effects = rejecting why := rfl

/-! ## Plans -/

theorem plan_eq_ok_iff {plan : Plan} :
    (service.plan filter sort limit).value = .ok plan ↔
      service.schema.validate filter = .ok () ∧
        ∃ sorted, service.schema.resolveSort sort = .ok sorted ∧
          plan = .build limit sorted filter := by
  rw [Service.plan]
  cases hvalid : service.schema.validate filter with
  | error why => simp [value_reject]
  | ok done =>
      cases hsort : service.schema.resolveSort sort with
      | error why => simp [value_reject]
      | ok sorted => simp [eq_comm]

/-- The plan of a filter whose conditions are admitted, under a sort that
resolves. -/
theorem plan_of_admitted {tree : Filter} {sorted : Option ResolvedSort}
    (hfilter : ∀ leaf ∈ tree.leaves, service.schema.Admits leaf)
    (hsort : service.schema.resolveSort sort = .ok sorted) :
    (service.plan (some tree) sort limit).value =
      .ok (.build limit sorted (some tree)) := by
  rw [plan_eq_ok_iff, Schema.validate_eq_ok_iff]
  refine ⟨?_, sorted, hsort, rfl⟩
  rintro _ ⟨⟩
  exact hfilter

theorem plan_of_refused_sort {tree : Filter} {why : Rejection}
    (hfilter : ∀ leaf ∈ tree.leaves, service.schema.Admits leaf)
    (hsort : service.schema.resolveSort sort = .error why) :
    (service.plan (some tree) sort limit).value = .error why := by
  have hvalid : service.schema.validate (some tree) = .ok () := by
    rw [Schema.validate_eq_ok_iff]
    rintro _ ⟨⟩
    exact hfilter
  rw [Service.plan, hvalid]
  simp only [hsort, value_reject]

theorem sent_plan (service : Service) (filter : Option Filter)
    (sort : Option SortRequest) (limit : Nat) :
    (service.plan filter sort limit).effects.sent = [] := by
  rw [Service.plan]
  split
  · exact sent_reject _
  · split
    · exact sent_reject _
    · rfl

theorem effects_plan_of_eq_ok {plan : Plan}
    (hplan : (service.plan filter sort limit).value = .ok plan) :
    (service.plan filter sort limit).effects = {} := by
  obtain ⟨hvalid, sorted, hsort, rfl⟩ := plan_eq_ok_iff.mp hplan
  rw [Service.plan, hvalid]
  simp only [hsort]
  rfl

theorem effects_plan_of_eq_error {why : Rejection}
    (hplan : (service.plan filter sort limit).value = .error why) :
    (service.plan filter sort limit).effects = rejecting why := by
  rw [Service.plan] at hplan ⊢
  split at hplan
  · cases hplan
    exact effects_reject _
  · split at hplan
    · cases hplan
      exact effects_reject _
    · cases hplan

theorem sent_explain (service : Service) (request : ResolveRequest) (default : Nat) :
    (service.explain request default).effects.sent = [] := by
  rw [explain]
  split
  · exact sent_reject _
  · simp only [Traced.effects_bind, Effects.sent_append, sent_plan]
    split <;> rfl

theorem value_start (service : Service) (filter : Option Filter)
    (sort : Option SortRequest) (limit : Nat) :
    (service.start filter sort limit).value =
      (service.plan filter sort limit).value := by
  rw [start]
  simp only [Traced.value_bind]
  split <;> rename_i hplan <;> exact hplan.symm

theorem effects_start_of_eq_ok {plan : Plan}
    (hplan : (service.plan filter sort limit).value = .ok plan) :
    (service.start filter sort limit).effects = noting (scope limit).opening := by
  rw [start]
  simp only [Traced.effects_bind, effects_plan_of_eq_ok hplan, hplan,
    Traced.effects_pure, Effects.append_empty]
  rfl

theorem effects_start_of_eq_error {why : Rejection}
    (hplan : (service.plan filter sort limit).value = .error why) :
    (service.start filter sort limit).effects =
      noting (scope limit).opening ++
        (rejecting why ++ noting ((scope limit).closing (.fail why.message true))) := by
  rw [start]
  simp only [Traced.effects_bind, effects_plan_of_eq_error hplan, hplan,
    Traced.effects_pure, Effects.append_empty]
  rfl

theorem sent_start (service : Service) (filter : Option Filter)
    (sort : Option SortRequest) (limit : Nat) :
    (service.start filter sort limit).effects.sent = [] := by
  rw [start]
  simp only [Traced.effects_bind, Effects.sent_append, sent_plan]
  split <;> rfl

/-! ## Resolutions -/

theorem value_finish (service : Service) (limit : Nat) (plan : Plan)
    (result : Except RemoteError (List Record)) :
    (service.finish limit plan result).value = result.mapError .remote := by
  cases result <;> rfl

theorem sent_finish (service : Service) (limit : Nat) (plan : Plan)
    (result : Except RemoteError (List Record)) :
    (service.finish limit plan result).effects.sent = [] := by
  cases result <;> rfl

theorem effects_finish (service : Service) (limit : Nat) (plan : Plan)
    (result : Except RemoteError (List Record)) :
    (service.finish limit plan result).effects =
      match result with
      | .ok records => service.returning limit plan records
      | .error error => noting ((scope limit).closing (.fail error.message false)) := by
  cases result with
  | error error => exact Effects.append_empty _
  | ok records =>
      apply Effects.ext
      · rfl
      · exact (congrArg _ (Counters.add_zero _)).trans (Counters.add_zero _)
      · rfl

section Planned

variable {plan : Plan} (hplan : (service.plan filter sort limit).value = .ok plan)

include hplan

/-- The answer to a plan is passed on. -/
theorem value_resolve :
    (service.resolve filter sort limit).value =
      (plan.execute service.answer service.resumption).value.mapError .remote := by
  rw [resolve]
  simp only [Traced.value_bind, value_start, hplan, value_finish]

theorem sent_resolve :
    (service.resolve filter sort limit).effects.sent =
      (plan.execute service.answer service.resumption).effects.sent := by
  rw [resolve]
  simp only [Traced.effects_bind, Effects.sent_append, value_start, hplan,
    sent_start, sent_finish, List.nil_append, List.append_nil]

theorem effects_resolve :
    (service.resolve filter sort limit).effects =
      noting (scope limit).opening ++
        ((plan.execute service.answer service.resumption).effects ++
          (service.finish limit plan
            (plan.execute service.answer service.resumption).value).effects) := by
  rw [resolve]
  simp only [Traced.effects_bind, value_start, hplan, effects_start_of_eq_ok hplan]

/-- A resolution that is dropped before its plan has ended. -/
theorem cancel_of_waiting
    (hwaits : (plan.launch service.answer service.resumption).value.isFinished = false) :
    (service.cancel filter sort limit).value = .ok none ∧
      (service.cancel filter sort limit).effects =
        noting (scope limit).opening ++
          ((plan.launch service.answer service.resumption).effects ++
            noting ((scope limit).closing .drop)) := by
  rw [cancel]
  simp only [Traced.value_bind, Traced.effects_bind, value_start, hplan,
    effects_start_of_eq_ok hplan]
  split
  · rename_i result hresult
    rw [hresult] at hwaits
    cases hwaits
  · refine ⟨rfl, ?_⟩
    simp only [Traced.effects_bind, Traced.effects_pure, Effects.append_empty]
    rfl

theorem branching_of_plan : plan.Branching := by
  obtain ⟨-, sorted, -, rfl⟩ := plan_eq_ok_iff.mp hplan
  exact Plan.branching_build limit sorted filter

theorem resolve_eq_ok_iff (records : List Record) :
    (service.resolve filter sort limit).value = .ok records ↔
      plan.evaluate service.answer = .ok records := by
  rw [value_resolve hplan,
    ← Plan.execute_eq_ok_iff (branching_of_plan hplan) records]
  cases (plan.execute service.answer service.resumption).value <;>
    simp [Except.mapError]

/-- A resolution that fails after planning passes on the failure of one of its
queries. -/
theorem exists_query_of_resolve_eq_error {error : ResolveError}
    (hfailed : (service.resolve filter sort limit).value = .error error) :
    ∃ query ∈ plan.queries, ∃ failure,
      service.answer.failure? query = some failure ∧ error = .remote failure := by
  rw [value_resolve hplan] at hfailed
  cases hresult : (plan.execute service.answer service.resumption).value with
  | ok records =>
      rw [hresult] at hfailed
      cases hfailed
  | error failure =>
      rw [hresult] at hfailed
      obtain ⟨query, hquery, hfailure⟩ :=
        Plan.exists_query_of_execute_eq_error (branching_of_plan hplan) hresult
      exact ⟨query, hquery, failure, hfailure, (Except.error.inj hfailed).symm⟩

theorem resolve_ne_rejected (why : Rejection) :
    (service.resolve filter sort limit).value ≠ .error (.rejected why) := by
  intro hrejected
  obtain ⟨-, -, failure, -, herror⟩ := exists_query_of_resolve_eq_error hplan hrejected
  cases herror

theorem sent_resolve_subperm :
    (service.resolve filter sort limit).effects.sent.Subperm plan.queries := by
  rw [sent_resolve hplan]
  exact Plan.sent_execute_subperm plan _ _

/-- A resolution that succeeds has sent each query of its plan once. -/
theorem sent_resolve_perm {records : List Record}
    (hdone : (service.resolve filter sort limit).value = .ok records) :
    (service.resolve filter sort limit).effects.sent.Perm plan.queries := by
  have hbranching := branching_of_plan hplan
  rw [resolve_eq_ok_iff hplan, ← Plan.execute_eq_ok_iff hbranching] at hdone
  rw [sent_resolve hplan]
  exact Plan.sent_execute_perm hbranching hdone

/-- A resolution that fails after planning passes on the failure of a query it has
sent. -/
theorem exists_sent_of_resolve_eq_error {failure : RemoteError}
    (hfailed : (service.resolve filter sort limit).value = .error (.remote failure)) :
    ∃ query ∈ (service.resolve filter sort limit).effects.sent,
      service.answer.failure? query = some failure := by
  rw [value_resolve hplan] at hfailed
  rw [sent_resolve hplan]
  apply Plan.exists_sent_of_execute_eq_error (branching_of_plan hplan)
  cases hresult : (plan.execute service.answer service.resumption).value with
  | ok records =>
      rw [hresult] at hfailed
      cases hfailed
  | error error =>
      rw [hresult] at hfailed
      cases hfailed
      rfl

/-- No query that a successful resolution has sent fails. -/
theorem failure?_eq_none_of_resolve_eq_ok {records : List Record}
    (hdone : (service.resolve filter sort limit).value = .ok records) :
    ∀ query ∈ (service.resolve filter sort limit).effects.sent,
      service.answer.failure? query = none := by
  intro query hquery
  have hplanned := (sent_resolve_subperm hplan).subset hquery
  exact Plan.failure?_eq_none_of_evaluate_eq_ok ((resolve_eq_ok_iff hplan records).mp hdone)
    query hplanned

/-- A resolution that is dropped has sent what the first poll sends. -/
theorem sent_cancel :
    (service.cancel filter sort limit).effects.sent =
      (plan.launch service.answer service.resumption).effects.sent := by
  rw [cancel]
  simp only [Traced.effects_bind, Effects.sent_append, value_start, hplan,
    sent_start, List.nil_append]
  split
  · rw [Traced.effects_bind, Traced.effects_pure, Effects.append_empty, sent_finish,
      List.append_nil]
  · exact List.append_nil _

end Planned

section Rejected

variable {why : Rejection} (hplan : (service.plan filter sort limit).value = .error why)

include hplan

theorem value_resolve_rejected :
    (service.resolve filter sort limit).value = .error (.rejected why) := by
  rw [resolve]
  simp only [Traced.value_bind, value_start, hplan, Traced.value_pure]

theorem sent_resolve_rejected :
    (service.resolve filter sort limit).effects.sent = [] := by
  rw [resolve]
  simp only [Traced.effects_bind, Effects.sent_append, value_start, hplan,
    sent_start, Traced.effects_pure]
  rfl

theorem effects_resolve_rejected :
    (service.resolve filter sort limit).effects =
      noting (scope limit).opening ++
        (rejecting why ++ noting ((scope limit).closing (.fail why.message true))) := by
  rw [resolve]
  simp only [Traced.effects_bind, value_start, hplan, effects_start_of_eq_error hplan,
    Traced.effects_pure, Effects.append_empty]

theorem effects_cancel_rejected :
    (service.cancel filter sort limit).effects =
      noting (scope limit).opening ++
        (rejecting why ++ noting ((scope limit).closing (.fail why.message true))) := by
  rw [cancel]
  simp only [Traced.effects_bind, value_start, hplan, effects_start_of_eq_error hplan,
    Traced.effects_pure, Effects.append_empty]

theorem value_cancel_rejected :
    (service.cancel filter sort limit).value = .error (.rejected why) := by
  rw [cancel]
  simp only [Traced.value_bind, value_start, hplan, Traced.value_pure]

theorem sent_cancel_rejected :
    (service.cancel filter sort limit).effects.sent = [] := by
  rw [cancel]
  simp only [Traced.effects_bind, Effects.sent_append, value_start, hplan,
    sent_start, Traced.effects_pure]
  rfl

end Rejected

end Service

end NestedQuery
