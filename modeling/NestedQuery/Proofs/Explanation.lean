import NestedQuery.Proofs.FanOut

/-!
# Explanations

An explanation makes the plan that a resolution of the same request carries out,
and both are rejected for the same reasons.  So the plan tells beforehand which
queries are sent, and their order if no wide group gives way: the queries of the
direct steps.  A resolution that fails while a wide group has given way leaves out
some of them.
-/

namespace NestedQuery

namespace Service

variable {service : Service} {request : ResolveRequest} {default : Nat}

theorem resolveRequest_of_readFilter {filter : Option Filter}
    (hread : service.schema.readFilter request.filter = .ok filter) :
    service.resolveRequest request default =
      service.resolve filter request.sort (request.limit default) := by
  rw [resolveRequest, hread]

theorem value_explain_of_readFilter {filter : Option Filter}
    (hread : service.schema.readFilter request.filter = .ok filter) :
    (service.explain request default).value =
      (service.plan filter request.sort (request.limit default)).value := by
  rw [explain, hread]
  simp only [Traced.value_bind]
  split <;> rename_i hplan <;> exact hplan.symm

theorem value_explain_unread {why : Rejection}
    (hread : service.schema.readFilter request.filter = .error why) :
    (service.explain request default).value = .error why := by
  rw [explain, hread, value_reject]

theorem value_resolveRequest_unread {why : Rejection}
    (hread : service.schema.readFilter request.filter = .error why) :
    (service.resolveRequest request default).value = .error (.rejected why) := by
  rw [resolveRequest, hread]
  rfl

theorem sent_resolveRequest_unread {why : Rejection}
    (hread : service.schema.readFilter request.filter = .error why) :
    (service.resolveRequest request default).effects.sent = [] := by
  rw [resolveRequest, hread]
  rfl

/-- The plan of an explanation is the plan of the resolution. -/
theorem plan_of_explain {plan : Plan}
    (hexplain : (service.explain request default).value = .ok plan) :
    ∃ filter, service.schema.readFilter request.filter = .ok filter ∧
      (service.plan filter request.sort (request.limit default)).value = .ok plan := by
  cases hread : service.schema.readFilter request.filter with
  | error why =>
      rw [value_explain_unread hread] at hexplain
      cases hexplain
  | ok filter =>
      rw [value_explain_of_readFilter hread] at hexplain
      exact ⟨filter, rfl, hexplain⟩

/-- A resolution is rejected for the same reason as its explanation, and sends
nothing then. -/
theorem resolveRequest_of_explain_eq_error {why : Rejection}
    (hexplain : (service.explain request default).value = .error why) :
    (service.resolveRequest request default).value = .error (.rejected why) ∧
      (service.resolveRequest request default).effects.sent = [] := by
  cases hread : service.schema.readFilter request.filter with
  | error other =>
      rw [value_explain_unread hread] at hexplain
      cases hexplain
      exact ⟨value_resolveRequest_unread hread, sent_resolveRequest_unread hread⟩
  | ok filter =>
      rw [value_explain_of_readFilter hread] at hexplain
      rw [resolveRequest_of_readFilter hread]
      exact ⟨value_resolve_rejected hexplain, sent_resolve_rejected hexplain⟩

theorem explain_eq_error_iff {why : Rejection} :
    (service.explain request default).value = .error why ↔
      (service.resolveRequest request default).value = .error (.rejected why) := by
  constructor
  · exact fun hexplain => (resolveRequest_of_explain_eq_error hexplain).1
  · intro hrejected
    cases hexplain : (service.explain request default).value with
    | error other =>
        rw [(resolveRequest_of_explain_eq_error hexplain).1] at hrejected
        cases hrejected
        rfl
    | ok plan =>
        obtain ⟨filter, hread, hplan⟩ := plan_of_explain hexplain
        rw [resolveRequest_of_readFilter hread] at hrejected
        obtain ⟨-, -, failure, -, herror⟩ :=
          exists_query_of_resolve_eq_error hplan hrejected
        cases herror

end Service

/-- An explanation sends nothing and is rejected as the resolution of the request
is, which then sends nothing either.  Otherwise the resolution sends queries of the
explained plan, none twice, and all of them if it succeeds.  If the plan is orderly,
it sends all of them in their order, however it ends. -/
theorem explanation_previews_resolution (service : Service) (table : AnswerTable)
    (request : ResolveRequest) (default : Nat)
    (hclient : service.answer = table.answer) :
    (service.explain request default).effects.sent = [] ∧
      (∀ why, (service.explain request default).value = .error why ↔
        (service.resolveRequest request default).value = .error (.rejected why)) ∧
      (∀ why, (service.explain request default).value = .error why →
        (service.resolveRequest request default).effects.sent = []) ∧
      ∀ plan, (service.explain request default).value = .ok plan →
        plan.queries.length = plan.remoteCalls ∧
          (service.resolveRequest request default).effects.sent.Subperm plan.queries ∧
          (∀ records, (service.resolveRequest request default).value = .ok records →
            (service.resolveRequest request default).effects.sent.Perm plan.queries) ∧
          (plan.Orderly service.resumption →
            (service.resolveRequest request default).effects.sent = plan.queries) := by
  refine ⟨service.sent_explain request default, ?_, ?_, ?_⟩
  · exact fun why => Service.explain_eq_error_iff
  · exact fun why hexplain => (Service.resolveRequest_of_explain_eq_error hexplain).2
  · intro plan hexplain
    obtain ⟨filter, hread, hplan⟩ := Service.plan_of_explain hexplain
    rw [Service.resolveRequest_of_readFilter hread]
    refine ⟨plan.length_queries, Service.sent_resolve_subperm hplan, ?_, ?_⟩
    · exact fun records => Service.sent_resolve_perm hplan
    · intro horderly
      rw [Service.sent_resolve hplan, hclient]
      exact (table.execute_of_orderly (Service.branching_of_plan hplan) horderly).2

/-- Two conditions that both fail, under limit zero. -/
def failingRequest : ResolveRequest where
  filter := (Filter.group .or [Filter.statusIs "Lost", Filter.statusIs "Won"]).toJson
  maxNestingLevel := some 0

/-- The request fails, and has sent what its explanation lists. -/
theorem explanation_previews_resolution_failing :
    (failingService.resolveRequest failingRequest 2).value =
        .error (.remote (.rejected "first")) ∧
      ∃ plan, (failingService.explain failingRequest 2).value = .ok plan ∧
        plan.remoteCalls = 2 ∧
        (failingService.resolveRequest failingRequest 2).effects.sent =
          plan.queries := by
  obtain ⟨-, -, -, hplanned⟩ := explanation_previews_resolution failingService
    failingAnswers failingRequest 2 rfl
  obtain ⟨-, -, -, horderly⟩ := hplanned
    (.merge .or 1 [.direct (some (Filter.statusIs "Lost")) none 0,
      .direct (some (Filter.statusIs "Won")) none 0]) rfl
  have hnarrow : (Plan.merge .or 1 [.direct (some (Filter.statusIs "Lost")) none 0,
      .direct (some (Filter.statusIs "Won")) none 0]).Narrow := by decide
  exact ⟨by decide, _, rfl, rfl, horderly (hnarrow.orderly _)⟩

/-- Wide groups to the left of a condition, under limit zero. -/
def gappedRequest : ResolveRequest where
  filter := gappedFilter.toJson
  maxNestingLevel := some 0

/-- A service that finds nothing, and never fails. -/
def emptyService : Service := ⟨.default, AnswerTable.answer {}, "0", .afterPoll⟩

/-- The group gives way after its second child and again after its fourth, so the
condition to its right is sent before most of the group.  If it fails, the rest of
the group is never sent; if nothing fails, everything is sent, but out of order. -/
theorem explanation_out_of_order :
    ((failingService.explain gappedRequest 2).value.map Plan.remoteCalls = .ok 152 ∧
        (failingService.resolveRequest gappedRequest 2).value =
          .error (.remote (.rejected "second")) ∧
        (failingService.resolveRequest gappedRequest 2).effects.sent.length = 125) ∧
      (emptyService.resolveRequest gappedRequest 2).value = .ok [] ∧
        (emptyService.explain gappedRequest 2).value.map Plan.queries ≠
          .ok (emptyService.resolveRequest gappedRequest 2).effects.sent := by
  decide +kernel

end NestedQuery
