import NestedQuery.Proofs.Resolution.Narrow
import NestedQuery.Proofs.Resolution.Service

/-!
# Fan-out and plain evaluation

A resolution polls its queries side by side; the evaluation of its plan goes
through them one by one.  Over a table of answers both give the same records, or
both fail.  Which failure is passed on, and in which order the queries are sent,
can depend on the schedule: a wide group that gives way lets what stands to its
right go ahead.  In a plan in which no wide group gives way before its last child
the resolution is the evaluation, and every query is sent in its order.
-/

namespace NestedQuery

/-- A table refuses no query. -/
theorem AnswerTable.exists_answer_eq_sent (table : AnswerTable) (query : Query) :
    ∃ reply, table.answer query = .sent reply := by
  rw [answer]
  split
  · exact ⟨_, rfl⟩
  · split
    · exact ⟨_, rfl⟩
    · exact ⟨_, rfl⟩

/-- An orderly plan over a table is executed as it is evaluated, and sends its queries
in order. -/
theorem AnswerTable.execute_of_orderly (table : AnswerTable) {plan : Plan}
    {resumption : Resumption} (hbranching : plan.Branching)
    (horderly : plan.Orderly resumption) :
    (plan.execute table.answer resumption).value = plan.evaluate table.answer ∧
      (plan.execute table.answer resumption).effects.sent = plan.queries :=
  Plan.execute_of_orderly hbranching horderly fun query _ =>
    table.exists_answer_eq_sent query

/-- A resolution of an orderly plan over a table evaluates it, and sends its queries
in order. -/
theorem Service.resolve_of_orderly {service : Service} {table : AnswerTable}
    {filter : Option Filter} {sort : Option SortRequest} {limit : Nat} {plan : Plan}
    (hclient : service.answer = table.answer)
    (hplan : (service.plan filter sort limit).value = .ok plan)
    (horderly : plan.Orderly service.resumption) :
    (service.resolve filter sort limit).value =
        (plan.evaluate table.answer).mapError .remote ∧
      (service.resolve filter sort limit).effects.sent = plan.queries := by
  obtain ⟨hvalue, hsent⟩ :=
    table.execute_of_orderly (Service.branching_of_plan hplan) horderly
  rw [Service.value_resolve hplan, Service.sent_resolve hplan, hclient, hvalue, hsent]
  exact ⟨rfl, rfl⟩

/-- A resolution over a table succeeds if the evaluation of its plan does, with
the same records.  Otherwise it fails as one of its queries.  It sends the queries
of its plan, none twice, and all of them if it succeeds.  If the plan is orderly,
it fails as the first query that fails, and it sends all queries in order. -/
theorem fan_out_refines_evaluation (service : Service) (table : AnswerTable)
    (filter : Option Filter) (sort : Option SortRequest) (limit : Nat) {plan : Plan}
    (hclient : service.answer = table.answer)
    (hplan : (service.plan filter sort limit).value = .ok plan) :
    (∀ records, (service.resolve filter sort limit).value = .ok records ↔
        plan.evaluate table.answer = .ok records) ∧
      (∀ error, (service.resolve filter sort limit).value = .error error →
        ∃ query ∈ plan.queries, ∃ failure,
          table.answer.failure? query = some failure ∧ error = .remote failure) ∧
      (service.resolve filter sort limit).effects.sent.Subperm plan.queries ∧
      (∀ records, (service.resolve filter sort limit).value = .ok records →
        (service.resolve filter sort limit).effects.sent.Perm plan.queries) ∧
      (plan.Orderly service.resumption →
        (service.resolve filter sort limit).value =
            (plan.evaluate table.answer).mapError .remote ∧
          failureOf (service.resolve filter sort limit).value =
            (plan.queries.findSome? table.answer.failure?).map .remote ∧
          (service.resolve filter sort limit).effects.sent = plan.queries) := by
  refine ⟨?_, ?_, Service.sent_resolve_subperm hplan, ?_, ?_⟩
  · rw [← hclient]
    exact Service.resolve_eq_ok_iff hplan
  · rw [← hclient]
    exact fun error => Service.exists_query_of_resolve_eq_error hplan
  · exact fun records => Service.sent_resolve_perm hplan
  · intro horderly
    obtain ⟨hvalue, hsent⟩ := Service.resolve_of_orderly hclient hplan horderly
    refine ⟨hvalue, ?_, hsent⟩
    rw [hvalue, ← Plan.failureOf_evaluate]
    cases plan.evaluate table.answer <;> rfl

/-- Two conditions fail, the others find nothing. -/
def failingAnswers : AnswerTable where
  failures :=
    [(some (Filter.statusIs "Lost"), .rejected "first"),
      (some (Filter.statusIs "Won"), .rejected "second")]

def failingService : Service := ⟨.default, failingAnswers.answer, "0", .afterPoll⟩

/-- A wide group whose first and last conditions fail. -/
def wideFilter : Filter :=
  .group .or (Filter.statusIs "Lost" ::
    (List.replicate 29 (Filter.statusIs "Open") ++ [Filter.statusIs "Won"]))

/-- A group of 31 children, four of which have 31 children themselves, finds nothing.  It
stands to the left of a condition that fails. -/
def gappedFilter : Filter :=
  .group .and
    [.group .or
      (List.replicate 4 (.group .or (List.replicate 31 (Filter.statusIs "Open"))) ++
        List.replicate 27 (Filter.statusIs "Open")),
      Filter.statusIs "Won"]

/-- A narrow group whose children all fail fails as the first of them. -/
theorem fan_out_refines_evaluation_narrow :
    (failingService.resolve
        (some (.group .or [Filter.statusIs "Lost", Filter.statusIs "Won"]))
        none 0).value = .error (.remote (.rejected "first")) ∧
      (failingService.resolve
        (some (.group .or [Filter.statusIs "Lost", Filter.statusIs "Won"]))
        none 0).effects.sent =
          [⟨some (Filter.statusIs "Lost"), []⟩,
            ⟨some (Filter.statusIs "Won"), []⟩] := by
  obtain ⟨-, -, -, -, horderly⟩ := fan_out_refines_evaluation failingService
    failingAnswers (some (.group .or [Filter.statusIs "Lost", Filter.statusIs "Won"]))
    none 0 rfl rfl
  have hnarrow : (Plan.build 0 none (some (.group .or
      [Filter.statusIs "Lost", Filter.statusIs "Won"]))).Narrow := by decide
  obtain ⟨hvalue, -, hsent⟩ := horderly (hnarrow.orderly _)
  exact ⟨hvalue.trans (by decide), hsent⟩

/-- A group of 31 children, two of which have 31 children themselves, stands to the
left of a condition. -/
def crossingFilter : Filter :=
  .group .and
    [.group .or
      (List.replicate 2 (.group .or (List.replicate 31 (Filter.statusIs "Open"))) ++
        List.replicate 29 (Filter.statusIs "Lost")),
      Filter.statusIs "Won"]

/-- The group gives way after its second child, so the condition to its right is
sent before the rest of the group, and fails before it. -/
theorem fan_out_out_of_order :
    failingService.schema.validate (some crossingFilter) = .ok () ∧
      (failingService.resolve (some crossingFilter) none 0).value =
        .error (.remote (.rejected "second")) ∧
      (Plan.build 0 none (some crossingFilter)).evaluate failingAnswers.answer =
        .error (.rejected "first") ∧
      (failingService.resolve (some crossingFilter) none 0).effects.sent ≠
        (Plan.build 0 none (some crossingFilter)).queries := by
  decide +kernel

end NestedQuery
