import NestedQuery.Proofs.FanOut
import NestedQuery.Proofs.Resolution.Dropping
import NestedQuery.Proofs.Resolution.Logging

/-!
# The log of a resolution

Between the entry that opens a resolution and the one that closes it stand the
entries of its plan.  If it comes to records they are exactly these, however the
plan was scheduled.  If it fails they are some of these, the failure it ends with
among them.  In a plan without wide groups their order is known as well: the opening
in pre-order, then the merges in post-order up to the first query that fails, then
its failure.
-/

namespace NestedQuery

/-- Nothing is below the least severity. -/
theorem Log.redirected_trace (entries : List Log.Entry) :
    Log.redirected .trace entries = entries.map Log.Entry.line := by
  rw [Log.redirected, List.filter_eq_self.mpr]
  intro entry _
  exact decide_eq_true (Nat.zero_le _)

/-- An entry about a single call. -/
def Log.Entry.OfCall (entry : Log.Entry) : Prop :=
  ∃ event : Log.Event, entry.event = event.name

namespace Plan

open Execution

theorem ofCall_opening (plan : Plan) : ∀ entry ∈ plan.opening.logged, entry.OfCall := by
  induction plan using Plan.induct with
  | direct filter sort level =>
      exact List.forall_mem_singleton.mpr ⟨.remoteQuery, rfl⟩
  | merge op level children ih =>
      rw [opening_merge, Effects.logged_append, Effects.logged_concat, List.flatMap_map,
        List.forall_mem_append]
      refine ⟨List.forall_mem_singleton.mpr ⟨.decompositionSplit, rfl⟩, ?_⟩
      intro entry hmem
      obtain ⟨child, hchild, hmem⟩ := List.mem_flatMap.mp hmem
      exact ih child hchild entry hmem

theorem ofCall_entries (answer : Answer) (plan : Plan) :
    ∀ entry ∈ plan.entries answer, entry.OfCall := by
  intro entry hmem
  rw [(entries_perm answer plan 0).mem_iff, List.mem_append, List.mem_append] at hmem
  rcases hmem with (hmem | hmem) | hmem
  · exact ofCall_opening plan entry hmem
  · obtain ⟨query, -, hmem⟩ := List.mem_flatMap.mp hmem
    obtain ⟨error, -, hmem⟩ := List.mem_flatMap.mp hmem
    cases List.mem_singleton.mp hmem
    exact ⟨.remoteQueryFailed, rfl⟩
  · exact ⟨.mergeComplete, event_of_mem_joinEntries hmem⟩

/-- What an execution of a plan logs, given what it has come to. -/
structure Transcript (answer : Answer) (resumption : Resumption) (plan : Plan)
    (result : Except RemoteError (List Record)) (logged : List Log.Entry) : Prop where
  ofCall : ∀ entry ∈ logged, entry.OfCall
  /-- With records, the opening and all merges are logged. -/
  of_ok : ∀ records, result = .ok records →
    logged.Perm (plan.opening.logged ++ joinEntries answer (plan.joins 0))
  /-- A failure is logged, and nothing but entries of the plan. -/
  of_error : ∀ error, result = .error error →
    (failing error).logged ⊆ logged ∧
      logged.Subperm
        (plan.opening.logged ++
          plan.queries.flatMap (fun query => failureEntries (answer.failure? query)) ++
          joinEntries answer (plan.joins 0))
  /-- If no wide group gives way, the opening comes first. -/
  of_orderly : plan.Orderly resumption → plan.opening.logged <+: logged
  /-- Without wide groups the merges before the first failure follow in post-order,
  and then the failure. -/
  of_narrow : plan.Narrow →
    logged = plan.opening.logged ++
      (joinEntries answer (joinsUpTo (answer.answered plan.queries) (plan.joins 0)) ++
        failureEntries (failureOf result))

theorem transcript_execute (table : AnswerTable) (resumption : Resumption) {plan : Plan}
    (hbranching : plan.Branching) :
    Transcript table.answer resumption plan
      (plan.execute table.answer resumption).value
      (plan.execute table.answer resumption).effects.logged := by
  have hsends : ∀ query ∈ plan.queries, ∃ reply, table.answer query = .sent reply :=
    fun query _ => table.exists_answer_eq_sent query
  have hsubperm := logged_execute_subperm hbranching table.answer resumption
  constructor
  · intro entry hmem
    exact ofCall_entries table.answer plan entry (hsubperm.subset hmem)
  · intro records hdone
    have heval := (execute_eq_ok_iff hbranching records).mp hdone
    have hperm := (logged_execute_perm hbranching hdone).trans
      (entries_perm table.answer plan 0)
    have hnone : plan.queries.flatMap
        (fun query => failureEntries (table.answer.failure? query)) = [] := by
      rw [List.flatMap_eq_nil_iff]
      intro query hquery
      rw [failure?_eq_none_of_evaluate_eq_ok heval query hquery]
      rfl
    rwa [hnone, List.append_nil] at hperm
  · intro error hfailed
    exact ⟨failure_logged_of_execute hbranching hfailed,
      hsubperm.trans (entries_perm table.answer plan 0).subperm⟩
  · intro horderly
    obtain ⟨-, later, -, heffects⟩ := execute_opens_of_orderly hbranching horderly hsends
    rw [heffects, Effects.logged_append]
    exact List.prefix_append _ _
  · intro hnarrow
    obtain ⟨hvalue, heffects⟩ := execute_of_narrow resumption hbranching hnarrow hsends
    have hcloses := closes_closing table.answer plan 0
    rw [Closes, Nat.zero_add] at hcloses
    rw [heffects, Effects.logged_append, hcloses, hvalue]

end Plan

namespace Service

/-- The entry that closes a resolution that has come to a result and has sent some
requests. -/
def conclusion (service : Service) (limit : Nat) (sent : List Query) :
    Except RemoteError (List Record) → Log.Entry
  | .ok records =>
      ⟨.info, "RESOLVE_COMPLETE",
        [("max_nesting_level", toString limit), ("records", toString records.length),
          ("remote_calls", toString sent.length), ("elapsed_ms", service.elapsed)]⟩
  | .error error =>
      ⟨.error, "RESOLVE_FAILED",
        [("max_nesting_level", toString limit), ("reason", error.message)]⟩

theorem logged_finish (service : Service) (limit : Nat) {plan : Plan}
    {result : Except RemoteError (List Record)} {sent : List Query}
    (hsent : ∀ records, result = .ok records → sent.length = plan.remoteCalls) :
    (service.finish limit plan result).effects.logged =
      [service.conclusion limit sent result] := by
  rw [effects_finish]
  cases result with
  | error error => rfl
  | ok records =>
      rw [conclusion, hsent records rfl]
      rfl

end Service

/-- Every resolution over a table is bracketed by its opening and one closing entry.
If it is rejected, the rejection stands between them.  Otherwise the closing tells
its result, with the number of records and of requests sent, and the transcript of
its plan stands between them.  A resolution that is dropped after its first poll
closes as incomplete, behind entries of the opening of its plan. -/
theorem resolution_log_determined (service : Service) (table : AnswerTable)
    (filter : Option Filter) (sort : Option SortRequest) (limit : Nat)
    (hclient : service.answer = table.answer) :
    Log.redirected .trace (service.resolve filter sort limit).effects.logged =
        (service.resolve filter sort limit).effects.logged.map Log.Entry.line ∧
      (∀ why, (service.plan filter sort limit).value = .error why →
        (service.resolve filter sort limit).value = .error (.rejected why) ∧
          (service.resolve filter sort limit).effects.logged =
            [⟨.info, "RESOLVE_BEGIN", [("max_nesting_level", toString limit)]⟩,
              ⟨.warn, "FILTER_REJECTED", [("code", why.code), ("reason", why.message)]⟩,
              ⟨.warn, "RESOLVE_FAILED",
                [("max_nesting_level", toString limit), ("reason", why.message)]⟩]) ∧
      ∀ plan, (service.plan filter sort limit).value = .ok plan →
        (∃ result logged,
          (service.resolve filter sort limit).value = result.mapError .remote ∧
            (service.resolve filter sort limit).effects.logged =
              ⟨.info, "RESOLVE_BEGIN", [("max_nesting_level", toString limit)]⟩ ::
                (logged ++ [service.conclusion limit
                  (service.resolve filter sort limit).effects.sent result]) ∧
            plan.Transcript table.answer service.resumption result logged) ∧
          (service.cancel filter sort limit).value = .ok none ∧
            ∃ logged, (service.cancel filter sort limit).effects.logged =
                ⟨.info, "RESOLVE_BEGIN", [("max_nesting_level", toString limit)]⟩ ::
                  (logged ++ [⟨.warn, "RESOLVE_INCOMPLETE",
                    [("reason", "scope dropped without completion")]⟩]) ∧
              logged.Sublist plan.opening.logged ∧
              (plan.Orderly service.resumption → logged = plan.opening.logged) := by
  refine ⟨Log.redirected_trace _, ?_, ?_⟩
  · intro why hplan
    refine ⟨Service.value_resolve_rejected hplan, ?_⟩
    rw [Service.effects_resolve_rejected hplan]
    rfl
  · intro plan hplan
    have hbranching := Service.branching_of_plan hplan
    have hsends : ∀ query ∈ plan.queries, ∃ reply, table.answer query = .sent reply :=
      fun query _ => table.exists_answer_eq_sent query
    constructor
    · refine ⟨(plan.execute service.answer service.resumption).value,
        (plan.execute service.answer service.resumption).effects.logged,
        Service.value_resolve hplan, ?_, ?_⟩
      · have hsent : ∀ records,
            (plan.execute service.answer service.resumption).value = .ok records →
              (plan.execute service.answer service.resumption).effects.sent.length =
                plan.remoteCalls := by
          intro records hdone
          rw [(Plan.sent_execute_perm hbranching hdone).length_eq, plan.length_queries]
        rw [Service.sent_resolve hplan, Service.effects_resolve hplan,
          Effects.logged_append, Effects.logged_append, service.logged_finish limit hsent]
        rfl
      · rw [hclient]
        exact Plan.transcript_execute table service.resumption hbranching
    · have hwaits := plan.launch_waits hbranching hsends service.resumption
      obtain ⟨hvalue, heffects⟩ := Service.cancel_of_waiting hplan (hclient ▸ hwaits)
      refine ⟨hvalue, (plan.launch table.answer service.resumption).effects.logged, ?_, ?_,
        ?_⟩
      · rw [heffects, hclient]
        rfl
      · exact Plan.logged_launch_sublist hbranching hsends service.resumption
      · intro horderly
        rw [Plan.launch_of_orderly hbranching horderly hsends]

/-- A group that finds nothing, beside a condition that fails. -/
def halfFailingFilter : Filter :=
  .group .and
    [.group .or [Filter.statusIs "Open", Filter.statusIs "Draft"],
      Filter.statusIs "Lost"]

/-- The inner group is merged before the failure, the outer one is not. -/
theorem resolution_log_determined_failing :
    (failingService.resolve (some halfFailingFilter) none 0).effects.logged.map
        Log.Entry.event =
      ["RESOLVE_BEGIN", "DECOMPOSITION_SPLIT", "DECOMPOSITION_SPLIT", "REMOTE_QUERY",
        "REMOTE_QUERY", "REMOTE_QUERY", "MERGE_COMPLETE", "REMOTE_QUERY_FAILED",
        "RESOLVE_FAILED"] := by
  obtain ⟨-, -, hplanned⟩ := resolution_log_determined failingService failingAnswers
    (some halfFailingFilter) none 0 rfl
  obtain ⟨⟨result, logged, hvalue, hlogged, htranscript⟩, -⟩ :=
    hplanned (.build 0 none (some halfFailingFilter)) rfl
  have hresult : result = .error (.rejected "first") := by
    cases result with
    | ok records => cases hvalue
    | error error =>
        cases hvalue
        rfl
  rw [hlogged, htranscript.of_narrow (by decide), hresult]
  decide

/-- A plan whose wide groups give way logs 125 of its 152 queries before it fails. -/
theorem resolution_log_of_gapped_failure :
    (Plan.build 0 none (some gappedFilter)).remoteCalls = 152 ∧
      (failingService.resolve (some gappedFilter) none 0).value =
        .error (.remote (.rejected "second")) ∧
      ((failingService.resolve (some gappedFilter) none 0).effects.logged.filter
        (·.event = "REMOTE_QUERY")).length = 125 := by
  decide +kernel

end NestedQuery
