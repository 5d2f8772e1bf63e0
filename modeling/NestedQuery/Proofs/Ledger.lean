import Mathlib.Algebra.GroupWithZero.Nat
import NestedQuery.Proofs.Accounting
import NestedQuery.Proofs.FanOut
import NestedQuery.Proofs.RequestLog

/-!
# The counters as a ledger

The counters of a session are a function of what its operations came to.  An
operation that starts a plan accounts for the queries and the splits of the plan,
for the records it returns, or for the failure it ends in; one that is rejected
accounts for the rejection, at whichever stage.  A session is accounted for
operation by operation.

A plan that is abandoned may have sent and split less than it holds, and a wide
group may have met several failures before the one that counts.  The totals are
therefore bounds in general, and exact where every plan is orderly or has come to
records, and where every failed plan is narrow.
-/

namespace NestedQuery

open Log (occurrences)

/-- The failure of a query that has ended an operation, if one has. -/
def Outcome.failure? : Outcome → Option RemoteError
  | .failed (.remote error) => some error
  | .aborted (.remote error) => some error
  | _ => none

/-- The number of direct steps that fail. -/
def Plan.failingSteps (answer : Answer) (plan : Plan) : Nat :=
  plan.queries.countP fun query => (answer.failure? query).isSome

/-- When an operation asks for another poll: a command does so at once, and a dropped
resolution as it is polled. -/
def Operation.resumption (given : Resumption) : Operation → Resumption
  | .cancel _ _ _ resumption => resumption
  | .runQuery _ _ => .duringPoll
  | .resolve _ _ _ | .resolveRequest _ _ => given
  | .plan _ _ _ | .explain _ _ | .runExplain _ _ => given

namespace Service

/-- The plan that an operation starts to carry out, if any. -/
def started? (service : Service) (operation : Operation) : Option Plan :=
  (operation.question? service.schema).bind fun question =>
    (service.plan question.filter question.sort question.limit).value.toOption

/-- The records that an operation returns, before they are shown as rows. -/
def found? (service : Service) : Operation → Option (List Record)
  | .resolve filter sort limit => (service.resolve filter sort limit).value.toOption
  | .cancel filter sort limit resumption =>
      (cancel { service with resumption } filter sort limit).value.toOption.join
  | .resolveRequest request default =>
      (service.resolveRequest request default).value.toOption
  | .runQuery input default =>
      match Command.readRequest input with
      | .error _ => none
      | .ok request =>
          (resolveRequest { service with resumption := .duringPoll } request
            default).value.toOption
  | .plan _ _ _ | .explain _ _ | .runExplain _ _ => none

end Service

/-! ## Tallies -/

/-- What is sent, split and failed, by number. -/
structure Tally where
  calls : Nat := 0
  splits : Nat := 0
  failures : Nat := 0

instance : Add Tally where
  add first second :=
    ⟨first.calls + second.calls, first.splits + second.splits,
      first.failures + second.failures⟩

theorem Tally.add_empty (tally : Tally) : tally + {} = tally := rfl

theorem Tally.empty_add (tally : Tally) : {} + tally = tally := by
  obtain ⟨calls, splits, failures⟩ := tally
  exact congr (congr (congrArg Tally.mk (Nat.zero_add calls)) (Nat.zero_add splits))
    (Nat.zero_add failures)

def Effects.tally (effects : Effects) : Tally :=
  ⟨effects.sent.length, occurrences .decompositionSplit effects.logged,
    occurrences .remoteQueryFailed effects.logged⟩

theorem Effects.tally_append (first second : Effects) :
    (first ++ second).tally = first.tally + second.tally := by
  rw [tally, sent_append, logged_append, List.length_append, Log.occurrences_append,
    Log.occurrences_append]
  rfl

/-- Nothing is sent, split or failed. -/
def Effects.Quiet (effects : Effects) : Prop := effects.tally = {}

theorem Effects.Quiet.append {first second : Effects} (hfirst : first.Quiet)
    (hsecond : second.Quiet) : (first ++ second).Quiet := by
  rw [Quiet] at hfirst hsecond ⊢
  rw [tally_append, hfirst, hsecond]
  rfl

theorem Effects.tally_between {before after : Effects} (hbefore : before.Quiet)
    (hafter : after.Quiet) (effects : Effects) :
    (before ++ (effects ++ after)).tally = effects.tally := by
  rw [Quiet] at hbefore hafter
  rw [tally_append, tally_append, hbefore, hafter, Tally.add_empty, Tally.empty_add]

/-- A tally agrees with the plan that was started, with whether it has failed and
whether it has come to records. -/
structure Accounted (answer : Answer) (resumption : Resumption) (plan? : Option Plan)
    (failed found : Bool) (tally : Tally) : Prop where
  calls_le : tally.calls ≤ plan?.elim 0 Plan.remoteCalls
  splits_le : tally.splits ≤ plan?.elim 0 Plan.mergeSteps
  complete : (∀ plan ∈ plan?, plan.Orderly resumption ∨ found = true) →
    tally.calls = plan?.elim 0 Plan.remoteCalls ∧
      tally.splits = plan?.elim 0 Plan.mergeSteps
  failures_ge : failed.toNat ≤ tally.failures
  failures_le : tally.failures ≤ plan?.elim 0 (Plan.failingSteps answer)
  failures_eq : (∀ plan ∈ plan?, plan.Narrow ∨ failed = false) →
    tally.failures = failed.toNat

theorem accounted_nothing (answer : Answer) (resumption : Resumption) (found : Bool) :
    Accounted answer resumption none false found {} := by
  constructor
  · exact Nat.le_refl _
  · exact Nat.le_refl _
  · exact fun _ => ⟨rfl, rfl⟩
  · exact Nat.le_refl _
  · exact Nat.le_refl _
  · exact fun _ => rfl

namespace Plan

variable {plan : Plan}

/-- The execution of a plan over a table. -/
theorem accounted_execute (table : AnswerTable) (hbranching : plan.Branching)
    (resumption : Resumption) :
    Accounted table.answer resumption (some plan)
      (failureOf (plan.execute table.answer resumption).value).isSome
      (plan.execute table.answer resumption).value.toOption.isSome
      (plan.execute table.answer resumption).effects.tally := by
  have hsends : ∀ query ∈ plan.queries, ∃ reply, table.answer query = .sent reply :=
    fun query _ => table.exists_answer_eq_sent query
  constructor
  · rw [Option.elim_some, ← length_queries]
    exact (sent_execute_subperm plan table.answer resumption).length_le
  · exact splits_execute_le hbranching table.answer resumption
  · intro hplan
    rw [Option.elim_some, Option.elim_some, ← length_queries]
    rcases hplan plan rfl with horderly | hfound
    · obtain ⟨-, hsent⟩ := execute_of_orderly hbranching horderly hsends
      exact ⟨congrArg List.length hsent,
        splits_execute_of_orderly hbranching hsends horderly⟩
    · cases hdone : (plan.execute table.answer resumption).value with
      | error error =>
          rw [hdone] at hfound
          cases hfound
      | ok records =>
          exact ⟨(sent_execute_perm hbranching hdone).length_eq,
            splits_execute_of_eq_ok hbranching hdone⟩
  · cases hdone : (plan.execute table.answer resumption).value with
    | error error => exact failures_execute_of_eq_error hbranching hdone
    | ok records => exact Nat.zero_le _
  · exact failures_execute_le hbranching table.answer resumption
  · intro hplan
    cases hdone : (plan.execute table.answer resumption).value with
    | ok records => exact failures_execute_of_eq_ok hbranching hdone
    | error error =>
        rw [hdone] at hplan
        have hnarrow := (hplan plan rfl).resolve_right fun hfalse => by cases hfalse
        obtain ⟨hvalue, -⟩ := execute_of_narrow resumption hbranching hnarrow hsends
        have hfailures := @failures_execute_of_narrow table.answer resumption plan
          hbranching hsends hnarrow
        rw [← hvalue, hdone] at hfailures
        exact hfailures

/-- The first poll of a plan over a table. -/
theorem accounted_launch (table : AnswerTable) (hbranching : plan.Branching)
    (resumption : Resumption) :
    Accounted table.answer resumption (some plan) false false
      (plan.launch table.answer resumption).effects.tally := by
  have hsends : ∀ query ∈ plan.queries, ∃ reply, table.answer query = .sent reply :=
    fun query _ => table.exists_answer_eq_sent query
  have hfailures := @failures_launch table.answer plan hbranching hsends resumption
  constructor
  · rw [Option.elim_some, ← length_queries]
    exact (sent_launch_subperm plan table.answer resumption).length_le
  · exact splits_launch_le hbranching hsends resumption
  · intro hplan
    have horderly := (hplan plan rfl).resolve_right Bool.false_ne_true
    have hopening := launch_of_orderly hbranching horderly hsends
    rw [hopening, Option.elim_some, Option.elim_some, ← length_queries]
    exact ⟨congrArg List.length (sent_opening plan), splits_opening plan⟩
  · exact Nat.zero_le _
  · exact Nat.le_trans (Nat.le_of_eq hfailures) (Nat.zero_le _)
  · exact fun _ => hfailures

end Plan

/-! ## One operation -/

/-- The effects of an operation agree with the plan it has started, with its outcome
and with the records it returns. -/
structure Settled (answer : Answer) (resumption : Resumption) (plan? : Option Plan)
    (outcome : Outcome) (found? : Option (List Record)) (effects : Effects) : Prop where
  booked : effects.Booked outcome.rejection?.isSome.toNat found?.isSome.toNat
    (found?.elim 0 List.length)
  accounted : Accounted answer resumption plan? outcome.failure?.isSome found?.isSome
    effects.tally

namespace Service

theorem occurrences_opening (event : Log.Event) (limit : Nat) :
    occurrences event [(scope limit).opening] = 0 := by
  cases event <;> rfl

theorem occurrences_closing (event : Log.Event) (limit : Nat) (closing : Log.Closing) :
    occurrences event [(scope limit).closing closing] = 0 := by
  cases closing <;> cases event <;> rfl

section Noting

variable {entry : Log.Entry}
variable (hentry : ∀ event : Log.Event, occurrences event [entry] = 0)

include hentry

theorem quiet_noting : (noting entry).Quiet := by
  rw [Effects.Quiet, Effects.tally, noting, hentry, hentry]
  rfl

theorem booked_noting : (noting entry).Booked 0 0 0 := by
  rw [Effects.Booked, noting, hentry, hentry]
  rfl

end Noting

theorem quiet_opening (limit : Nat) : (noting (scope limit).opening).Quiet :=
  quiet_noting fun event => occurrences_opening event limit

theorem booked_opening (limit : Nat) : (noting (scope limit).opening).Booked 0 0 0 :=
  booked_noting fun event => occurrences_opening event limit

theorem quiet_closing (limit : Nat) (closing : Log.Closing) :
    (noting ((scope limit).closing closing)).Quiet :=
  quiet_noting fun event => occurrences_closing event limit closing

theorem booked_closing (limit : Nat) (closing : Log.Closing) :
    (noting ((scope limit).closing closing)).Booked 0 0 0 :=
  booked_noting fun event => occurrences_closing event limit closing

theorem quiet_rejecting (why : Rejection) : (rejecting why).Quiet := rfl

theorem booked_rejecting (why : Rejection) : (rejecting why).Booked 1 0 0 := rfl

theorem quiet_returning (service : Service) (limit : Nat) (plan : Plan)
    (records : List Record) : (service.returning limit plan records).Quiet := by
  rw [Effects.Quiet, Effects.tally, returning, occurrences_closing, occurrences_closing]
  rfl

theorem booked_returning (service : Service) (limit : Nat) (plan : Plan)
    (records : List Record) :
    (service.returning limit plan records).Booked 0 1 records.length := by
  rw [Effects.Booked, returning, occurrences_closing, occurrences_closing]
  rfl

theorem quiet_finish (service : Service) (limit : Nat) (plan : Plan)
    (result : Except RemoteError (List Record)) :
    (service.finish limit plan result).effects.Quiet := by
  rw [effects_finish]
  cases result with
  | error error => exact quiet_closing _ _
  | ok records => exact service.quiet_returning limit plan records

theorem booked_finish (service : Service) (limit : Nat) (plan : Plan)
    (result : Except RemoteError (List Record)) :
    (service.finish limit plan result).effects.Booked 0 result.toOption.isSome.toNat
      (result.toOption.elim 0 List.length) := by
  rw [effects_finish]
  cases result with
  | error error => exact booked_closing _ _
  | ok records => exact service.booked_returning limit plan records

/-- What is done to reject a resolution. -/
theorem settled_rejected (answer : Answer) (resumption : Resumption) (limit : Nat)
    (why : Rejection) :
    Settled answer resumption none (.failed (.rejected why)) none
      (noting (scope limit).opening ++
        (rejecting why ++ noting ((scope limit).closing (.fail why.message true)))) := by
  constructor
  · exact (booked_opening limit).silent_append
      ((booked_rejecting why).append_silent (booked_closing limit _))
  · have hquiet := (quiet_opening limit).append
      ((quiet_rejecting why).append (quiet_closing limit (.fail why.message true)))
    rw [Effects.Quiet] at hquiet
    rw [hquiet]
    exact accounted_nothing answer resumption false

variable {service : Service} {table : AnswerTable}

theorem settled_resolve (hclient : service.answer = table.answer)
    (filter : Option Filter) (sort : Option SortRequest) (limit : Nat) :
    Settled table.answer service.resumption
      (service.plan filter sort limit).value.toOption
      (.ofRecords (service.resolve filter sort limit).value)
      (service.resolve filter sort limit).value.toOption
      (service.resolve filter sort limit).effects := by
  cases hplan : (service.plan filter sort limit).value with
  | error why =>
      rw [value_resolve_rejected hplan, effects_resolve_rejected hplan]
      exact settled_rejected table.answer service.resumption limit why
  | ok plan =>
      have haccounted := plan.accounted_execute table (branching_of_plan hplan)
        service.resumption
      have hbooked :=
        (plan.booked_execute table.answer service.resumption).silent_append
          (service.booked_finish limit plan
            (plan.execute table.answer service.resumption).value)
      have htally := Effects.tally_between (quiet_opening limit)
        (service.quiet_finish limit plan
          (plan.execute table.answer service.resumption).value)
        (plan.execute table.answer service.resumption).effects
      have hall := (booked_opening limit).silent_append hbooked
      rw [value_resolve hplan, effects_resolve hplan, hclient]
      cases hdone : (plan.execute table.answer service.resumption).value with
      | error error =>
          rw [hdone] at haccounted hall htally
          exact ⟨hall, htally ▸ haccounted⟩
      | ok records =>
          rw [hdone] at haccounted hall htally
          exact ⟨hall, htally ▸ haccounted⟩

theorem settled_cancel (hclient : service.answer = table.answer)
    (filter : Option Filter) (sort : Option SortRequest) (limit : Nat) :
    Settled table.answer service.resumption
      (service.plan filter sort limit).value.toOption
      (.ofCancelled (service.cancel filter sort limit).value)
      (service.cancel filter sort limit).value.toOption.join
      (service.cancel filter sort limit).effects := by
  cases hplan : (service.plan filter sort limit).value with
  | error why =>
      rw [value_cancel_rejected hplan, effects_cancel_rejected hplan]
      exact settled_rejected table.answer service.resumption limit why
  | ok plan =>
      have hbranching := branching_of_plan hplan
      have hwaits := plan.launch_waits hbranching
        (fun query _ => table.exists_answer_eq_sent query) service.resumption
      obtain ⟨hvalue, heffects⟩ := cancel_of_waiting hplan (hclient ▸ hwaits)
      rw [hvalue, heffects, hclient]
      constructor
      · exact (booked_opening limit).append
          ((plan.booked_launch table.answer service.resumption).append
            (booked_closing limit .drop))
      · rw [Effects.tally_between (quiet_opening limit) (quiet_closing limit .drop)]
        exact plan.accounted_launch table hbranching service.resumption

theorem settled_resolveRequest (hclient : service.answer = table.answer)
    (request : ResolveRequest) (default : Nat) :
    Settled table.answer service.resumption
      ((request.question? service.schema default).bind fun question =>
        (service.plan question.filter question.sort question.limit).value.toOption)
      (.ofRecords (service.resolveRequest request default).value)
      (service.resolveRequest request default).value.toOption
      (service.resolveRequest request default).effects := by
  rw [resolveRequest, ResolveRequest.question?]
  cases hread : service.schema.readFilter request.filter with
  | error why =>
      exact ⟨booked_rejecting why, accounted_nothing table.answer _ false⟩
  | ok filter =>
      exact settled_resolve hclient filter request.sort (request.limit default)

/-- A command conveys the outcome of its resolution. -/
theorem settled_runQuery (hclient : service.answer = table.answer)
    (input : ByteArray) (default : Nat) :
    Settled table.answer .duringPoll (service.started? (.runQuery input default))
      (.ofText (Command.runQuery service default input).value)
      (service.found? (.runQuery input default))
      (Command.runQuery service default input).effects := by
  rw [Command.runQuery, started?, found?, Operation.question?]
  cases hread : Command.readRequest input with
  | error error =>
      obtain ⟨flaw, rfl⟩ := Command.exists_flaw_of_readRequest hread
      exact ⟨Effects.booked_empty, accounted_nothing table.answer .duringPoll false⟩
  | ok request =>
      have hrequest := @settled_resolveRequest { service with resumption := .duringPoll }
        table hclient request default
      simp only [Traced.value_bind, Traced.effects_bind]
      generalize resolveRequest { service with resumption := .duringPoll } request
        default = resolved at *
      obtain ⟨result, effects⟩ := resolved
      cases result with
      | ok records =>
          simp only [Traced.effects_pure, Effects.append_empty]
          exact ⟨hrequest.booked, hrequest.accounted⟩
      | error error =>
          simp only [Traced.effects_pure, Effects.append_empty]
          cases error <;> exact ⟨hrequest.booked, hrequest.accounted⟩

theorem settled_plan (answer : Answer) (resumption : Resumption) (service : Service)
    (filter : Option Filter) (sort : Option SortRequest) (limit : Nat) :
    Settled answer resumption none
      (.ofPlan (service.plan filter sort limit).value) none
      (service.plan filter sort limit).effects := by
  cases hplan : (service.plan filter sort limit).value with
  | error why =>
      rw [effects_plan_of_eq_error hplan]
      exact ⟨booked_rejecting why, accounted_nothing answer resumption false⟩
  | ok plan =>
      rw [effects_plan_of_eq_ok hplan]
      exact ⟨Effects.booked_empty, accounted_nothing answer resumption false⟩

/-- The entry of an explanation. -/
def explained (limit : Nat) (plan : Plan) : Log.Entry :=
  Log.Event.explainComplete.entry
    [("max_nesting_level", toString limit), ("remote_calls", toString plan.remoteCalls)]

theorem settled_explain (answer : Answer) (resumption : Resumption) (service : Service)
    (request : ResolveRequest) (default : Nat) :
    Settled answer resumption none (.ofPlan (service.explain request default).value)
      none (service.explain request default).effects := by
  rw [explain]
  cases hread : service.schema.readFilter request.filter with
  | error why => exact ⟨booked_rejecting why, accounted_nothing answer resumption false⟩
  | ok filter =>
      have hplanned := service.settled_plan answer resumption filter request.sort
        (request.limit default)
      simp only [Traced.value_bind, Traced.effects_bind]
      generalize service.plan filter request.sort (request.limit default) = planned at *
      obtain ⟨result, effects⟩ := planned
      cases result with
      | error why =>
          simp only [Traced.effects_pure, Effects.append_empty]
          exact hplanned
      | ok plan =>
          have hbooked : (noting (explained (request.limit default) plan)).Booked 0 0 0 :=
            rfl
          have htally := Effects.tally_append effects
            (noting (explained (request.limit default) plan))
          simp only [Traced.effects_bind, Traced.effects_pure, Effects.append_empty]
          exact ⟨hplanned.booked.append_silent hbooked,
            htally.symm ▸ hplanned.accounted⟩

theorem settled_runExplain (answer : Answer) (resumption : Resumption)
    (service : Service) (input : ByteArray) (default : Nat) :
    Settled answer resumption none
      (.ofText (Command.runExplain service default input).value) none
      (Command.runExplain service default input).effects := by
  rw [Command.runExplain]
  cases hread : Command.readRequest input with
  | error error =>
      obtain ⟨flaw, rfl⟩ := Command.exists_flaw_of_readRequest hread
      exact ⟨Effects.booked_empty, accounted_nothing answer resumption false⟩
  | ok request =>
      have hexplained := service.settled_explain answer resumption request default
      simp only [Traced.value_bind, Traced.effects_bind]
      generalize service.explain request default = explained at *
      obtain ⟨result, effects⟩ := explained
      cases result with
      | error why =>
          simp only [Traced.effects_pure, Effects.append_empty]
          exact ⟨hexplained.booked, hexplained.accounted⟩
      | ok plan =>
          simp only [Traced.effects_pure, Effects.append_empty]
          exact ⟨hexplained.booked, hexplained.accounted⟩

/-- What one operation counts. -/
theorem settled_perform (hclient : service.answer = table.answer)
    (operation : Operation) :
    Settled table.answer (operation.resumption service.resumption)
      (service.started? operation) (service.perform operation).value
      (service.found? operation) (service.perform operation).effects := by
  cases operation <;>
    rw [perform, Traced.effects_bind, Traced.effects_pure, Effects.append_empty]
  case resolve filter sort limit => exact settled_resolve hclient filter sort limit
  case cancel filter sort limit resumption =>
    exact @settled_cancel { service with resumption } table hclient filter sort limit
  case plan filter sort limit =>
    exact service.settled_plan table.answer service.resumption filter sort limit
  case resolveRequest request default =>
    exact settled_resolveRequest hclient request default
  case explain request default =>
    exact service.settled_explain table.answer service.resumption request default
  case runQuery input default => exact settled_runQuery hclient input default
  case runExplain input default =>
    exact service.settled_runExplain table.answer service.resumption input default

theorem run_eq_concat (service : Service) (past : Effects) (operations : List Operation) :
    service.run past operations =
      past ++ .concat (operations.map fun operation =>
        (service.perform operation).effects) := by
  induction operations generalizing past with
  | nil => exact (Effects.append_empty past).symm
  | cons operation operations ih =>
      rw [run, List.foldl_cons, ← run, ih, step, Effects.append_assoc]
      rfl

end Service

/-! ## Sessions -/

/-- The effects of a session agree with its operations. -/
structure Balanced (service : Service) (answer : Answer) (operations : List Operation)
    (effects : Effects) : Prop where
  booked : effects.Booked
    (operations.countP fun operation =>
      (service.perform operation).value.rejection?.isSome)
    (operations.countP fun operation => (service.found? operation).isSome)
    (operations.map fun operation => (service.found? operation).elim 0 List.length).sum
  calls_le : effects.sent.length ≤
    ((operations.filterMap service.started?).map Plan.remoteCalls).sum
  splits_le : occurrences .decompositionSplit effects.logged ≤
    ((operations.filterMap service.started?).map Plan.mergeSteps).sum
  complete :
    (∀ operation ∈ operations, ∀ plan ∈ service.started? operation,
      plan.Orderly (operation.resumption service.resumption) ∨
        (service.found? operation).isSome = true) →
    effects.sent.length =
        ((operations.filterMap service.started?).map Plan.remoteCalls).sum ∧
      occurrences .decompositionSplit effects.logged =
        ((operations.filterMap service.started?).map Plan.mergeSteps).sum
  failures_ge :
    (operations.countP fun operation =>
      (service.perform operation).value.failure?.isSome) ≤
      occurrences .remoteQueryFailed effects.logged
  failures_le : occurrences .remoteQueryFailed effects.logged ≤
    ((operations.filterMap service.started?).map (Plan.failingSteps answer)).sum
  failures_eq :
    (∀ operation ∈ operations, ∀ plan ∈ service.started? operation,
      plan.Narrow ∨ (service.perform operation).value.failure?.isSome = false) →
    occurrences .remoteQueryFailed effects.logged =
      operations.countP fun operation =>
        (service.perform operation).value.failure?.isSome

theorem balanced_nil (service : Service) (answer : Answer) :
    Balanced service answer [] {} := by
  constructor
  · exact Effects.booked_empty
  · exact Nat.le_refl _
  · exact Nat.le_refl _
  · exact fun _ => ⟨rfl, rfl⟩
  · exact Nat.le_refl _
  · exact Nat.le_refl _
  · exact fun _ => rfl

/-- A sum over the plans that are started, with one more operation. -/
theorem sum_started_cons (service : Service) (amount : Plan → Nat) (operation : Operation)
    (operations : List Operation) :
    (((operation :: operations).filterMap service.started?).map amount).sum =
      (service.started? operation).elim 0 amount +
        ((operations.filterMap service.started?).map amount).sum := by
  rw [List.filterMap_cons]
  cases service.started? operation with
  | none => exact (Nat.zero_add _).symm
  | some plan => rfl

theorem countP_cons_toNat (p : Operation → Bool) (operation : Operation)
    (operations : List Operation) :
    (operation :: operations).countP p = (p operation).toNat + operations.countP p := by
  rw [List.countP_cons, Nat.add_comm]
  cases p operation <;> rfl

/-- One more operation keeps a session in balance. -/
theorem Balanced.cons {service : Service} {answer : Answer} {operation : Operation}
    {operations : List Operation} {first rest : Effects}
    (hfirst : Settled answer (operation.resumption service.resumption)
      (service.started? operation) (service.perform operation).value
      (service.found? operation) first)
    (hrest : Balanced service answer operations rest) :
    Balanced service answer (operation :: operations) (first ++ rest) := by
  obtain ⟨hbooked, haccounted⟩ := hfirst
  constructor
  · rw [countP_cons_toNat, countP_cons_toNat, List.map_cons, List.sum_cons]
    exact hbooked.append hrest.booked
  · rw [Effects.sent_append, List.length_append, sum_started_cons]
    exact Nat.add_le_add haccounted.calls_le hrest.calls_le
  · rw [Effects.logged_append, Log.occurrences_append, sum_started_cons]
    exact Nat.add_le_add haccounted.splits_le hrest.splits_le
  · intro hall
    obtain ⟨hhead, htail⟩ := List.forall_mem_cons.mp hall
    obtain ⟨hcalls, hsplits⟩ := haccounted.complete hhead
    obtain ⟨hlatercalls, hlatersplits⟩ := hrest.complete htail
    rw [Effects.sent_append, List.length_append, Effects.logged_append,
      Log.occurrences_append, sum_started_cons, sum_started_cons]
    exact ⟨congrArg₂ _ hcalls hlatercalls, congrArg₂ _ hsplits hlatersplits⟩
  · rw [Effects.logged_append, Log.occurrences_append, countP_cons_toNat]
    exact Nat.add_le_add haccounted.failures_ge hrest.failures_ge
  · rw [Effects.logged_append, Log.occurrences_append, sum_started_cons]
    exact Nat.add_le_add haccounted.failures_le hrest.failures_le
  · intro hall
    obtain ⟨hhead, htail⟩ := List.forall_mem_cons.mp hall
    rw [Effects.logged_append, Log.occurrences_append, countP_cons_toNat]
    exact congrArg₂ _ (haccounted.failures_eq hhead) (hrest.failures_eq htail)

theorem Service.balanced_run {service : Service} {table : AnswerTable}
    (hclient : service.answer = table.answer) (operations : List Operation) :
    Balanced service table.answer operations (service.run {} operations) := by
  rw [service.run_eq_concat, Effects.empty_append]
  induction operations with
  | nil => exact balanced_nil service table.answer
  | cons operation operations ih =>
      exact .cons (Service.settled_perform hclient operation) ih

/-- After any operations over a table the counters tell how many operations were
rejected, how many returned records and how many records, and they agree with the
requests and the log.  The requests and the splits are at most those of the plans
that were started, and as many if each of these plans is orderly or has come to
records.  The failures are at least the operations that failed and at most the
failing steps of their plans, and as many as the former if every plan that failed is
narrow. -/
theorem counters_keep_ledger (service : Service) (table : AnswerTable)
    (operations : List Operation) (hclient : service.answer = table.answer) :
    (service.run {} operations).counted =
        { requests := 0
          resolutions := (operations.countP fun operation =>
            (service.found? operation).isSome).toUInt64
          remoteCalls := (service.run {} operations).sent.length.toUInt64
          remoteFailures := (occurrences .remoteQueryFailed
            (service.run {} operations).logged).toUInt64
          decompositions := (occurrences .decompositionSplit
            (service.run {} operations).logged).toUInt64
          filtersRejected := (operations.countP fun operation =>
            (service.perform operation).value.rejection?.isSome).toUInt64
          recordsReturned := (operations.map fun operation =>
            (service.found? operation).elim 0 List.length).sum.toUInt64 } ∧
      (service.run {} operations).sent.length ≤
        ((operations.filterMap service.started?).map Plan.remoteCalls).sum ∧
      occurrences .decompositionSplit (service.run {} operations).logged ≤
        ((operations.filterMap service.started?).map Plan.mergeSteps).sum ∧
      ((∀ operation ∈ operations, ∀ plan ∈ service.started? operation,
          plan.Orderly (operation.resumption service.resumption) ∨
            (service.found? operation).isSome = true) →
        (service.run {} operations).sent.length =
            ((operations.filterMap service.started?).map Plan.remoteCalls).sum ∧
          occurrences .decompositionSplit (service.run {} operations).logged =
            ((operations.filterMap service.started?).map Plan.mergeSteps).sum) ∧
      (operations.countP fun operation =>
          (service.perform operation).value.failure?.isSome) ≤
        occurrences .remoteQueryFailed (service.run {} operations).logged ∧
      occurrences .remoteQueryFailed (service.run {} operations).logged ≤
        ((operations.filterMap service.started?).map
          (Plan.failingSteps table.answer)).sum ∧
      ((∀ operation ∈ operations, ∀ plan ∈ service.started? operation,
          plan.Narrow ∨ (service.perform operation).value.failure?.isSome = false) →
        occurrences .remoteQueryFailed (service.run {} operations).logged =
          operations.countP fun operation =>
            (service.perform operation).value.failure?.isSome) := by
  have hbalanced := Service.balanced_run hclient operations
  exact ⟨hbalanced.booked, hbalanced.calls_le, hbalanced.splits_le, hbalanced.complete,
    hbalanced.failures_ge, hbalanced.failures_le, hbalanced.failures_eq⟩

/-- A wide group may meet two failures before the one it ends with. -/
example :
    ((failingService.run {} [.resolve (some wideFilter) none 0]).counted.remoteFailures,
        (failingService.perform (.resolve (some wideFilter) none 0)).value.failure?) =
      (2, some (.rejected "first")) := by
  decide +kernel

/-- A narrow group whose two conditions fail. -/
def lostOrWon : Filter := .group .or [Filter.statusIs "Lost", Filter.statusIs "Won"]

/-- A dropped and a failed resolution of a narrow group. -/
theorem counters_keep_ledger_failing :
    (failingService.run {} [.cancel (some lostOrWon) none 0,
        .resolve (some lostOrWon) none 0]).counted =
      { remoteCalls := 4, remoteFailures := 1, decompositions := 2 } := by
  obtain ⟨hcounted, -, -, hcomplete, -, -, hexact⟩ := counters_keep_ledger failingService
    failingAnswers [.cancel (some lostOrWon) none 0, .resolve (some lostOrWon) none 0] rfl
  have hnarrow : ∀ operation ∈ ([.cancel (some lostOrWon) none 0,
      .resolve (some lostOrWon) none 0] : List Operation),
      ∀ plan ∈ failingService.started? operation, plan.Narrow := by
    decide
  obtain ⟨hcalls, hsplits⟩ := hcomplete fun operation hmem plan hplan =>
    Or.inl ((hnarrow operation hmem plan hplan).orderly _)
  rw [hcalls, hsplits, hexact fun operation hmem plan hplan =>
    Or.inl (hnarrow operation hmem plan hplan)] at hcounted
  exact hcounted.trans (by decide)

/-- A wide group that is dropped has sent two of its 31 queries, and a plan whose wide
groups give way has sent 125 of its 152 queries when it fails. -/
theorem counters_out_of_balance :
    ((failingService.run {} [.cancel (some wideFilter) none 0]).counted.remoteCalls = 2 ∧
        (failingService.started? (.cancel (some wideFilter) none 0)).map
          Plan.remoteCalls = some 31) ∧
      (failingService.run {} [.resolve (some gappedFilter) none 0]).counted.remoteCalls =
          125 ∧
        (failingService.started? (.resolve (some gappedFilter) none 0)).map
          Plan.remoteCalls = some 152 ∧
        (failingService.perform (.resolve (some gappedFilter) none 0)).value.failure? =
          some (.rejected "second") := by
  decide +kernel

end NestedQuery
