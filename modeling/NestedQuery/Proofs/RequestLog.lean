import NestedQuery.Proofs.Resolution.Service
import NestedQuery.Session

/-!
# The request log

The client receives what the operations of a session send, one after another.
An operation asks at most one question: a filter, a sort and a limit.  What it
sends are parts of the filter that the schema admits and that lie within the
limit, and a sort only with the whole filter.  An operation that is rejected, and
one that only plans, sends nothing.
-/

namespace NestedQuery

/-- What a resolution is asked. -/
structure Question where
  filter : Option Filter
  sort : Option SortRequest
  limit : Nat

/-- The question of a request, if its filter can be read. -/
def ResolveRequest.question? (request : ResolveRequest) (schema : Schema)
    (default : Nat) : Option Question :=
  match schema.readFilter request.filter with
  | .ok filter => some ⟨filter, request.sort, request.limit default⟩
  | .error _ => none

/-- The question an operation asks the client about, if any. -/
def Operation.question? (schema : Schema) : Operation → Option Question
  | .resolve filter sort limit => some ⟨filter, sort, limit⟩
  | .cancel filter sort limit _ => some ⟨filter, sort, limit⟩
  | .resolveRequest request default => request.question? schema default
  | .runQuery input default =>
      match Command.readRequest input with
      | .ok request => request.question? schema default
      | .error _ => none
  | .plan _ _ _ | .explain _ _ | .runExplain _ _ => none

/-- A request that cannot be read is refused as an input. -/
theorem Command.exists_flaw_of_readRequest {input : ByteArray} {error : CommandError}
    (hread : readRequest input = .error error) : ∃ flaw, error = .input flaw := by
  rw [readRequest] at hread
  split at hread
  · rw [ofText] at hread
    split at hread
    · cases hread
      exact ⟨.empty, rfl⟩
    · split at hread
      · cases hread
      · cases hread
        exact ⟨.notRequest, rfl⟩
  · cases hread
    exact ⟨.notText, rfl⟩

/-- An operation that makes a plan and does not carry it out. -/
def Operation.onlyPlans : Operation → Bool
  | .plan _ _ _ | .explain _ _ | .runExplain _ _ => true
  | .resolve _ _ _ | .cancel _ _ _ _ | .resolveRequest _ _ | .runQuery _ _ => false

theorem Operation.question?_of_onlyPlans {schema : Schema} {operation : Operation}
    (hplans : operation.onlyPlans = true) : operation.question? schema = none := by
  cases operation with
  | plan filter sort limit => rfl
  | explain request default => rfl
  | runExplain input default => rfl
  | resolve filter sort limit => cases hplans
  | cancel filter sort limit resumption => cases hplans
  | resolveRequest request default => cases hplans
  | runQuery input default => cases hplans

/-- Why the filter or the sort of an operation was refused, if it was. -/
def Outcome.rejection? : Outcome → Option Rejection
  | .failed (.rejected why) => some why
  | .aborted (.rejected why) => some why
  | _ => none

/-- A query that may be sent for a question, given all queries sent for it. -/
structure Permitted (schema : Schema) (question : Question) (sent : List Query)
    (query : Query) : Prop where
  part : ∀ part ∈ query.filter, ∃ whole ∈ question.filter, part.Within whole
  unfiltered : query.filter = none → question.filter = none
  admitted : ∀ part ∈ query.filter, ∀ leaf ∈ part.leaves, schema.Admits leaf
  level : ∀ part ∈ query.filter, part.level ≤ question.limit
  sorts : query.sorts = [] ∨
    ∃ sort, query.sorts = [sort] ∧ sort.property ∈ schema.sortable ∧
      sent = [query] ∧ query.filter = question.filter

/-- The queries are among those of the plan of a valid question. -/
def Planned (schema : Schema) (question : Question) (sent : List Query) : Prop :=
  schema.validate question.filter = .ok () ∧
    ∃ sorted, schema.resolveSort question.sort = .ok sorted ∧
      sent.Subperm (Plan.build question.limit sorted question.filter).queries

theorem Schema.mem_sortable_of_resolveSort {schema : Schema}
    {sort : Option SortRequest} {sorted : ResolvedSort}
    (hsort : schema.resolveSort sort = .ok (some sorted)) :
    sorted.property ∈ schema.sortable := by
  obtain ⟨asked, -, -, hlisted, -⟩ := resolveSort_eq_ok_some_iff.mp hsort
  exact hlisted

/-- The queries of a plan are permitted. -/
theorem Planned.permitted {schema : Schema} {question : Question} {sent : List Query}
    (hplanned : Planned schema question sent) {query : Query} (hquery : query ∈ sent) :
    Permitted schema question sent query := by
  obtain ⟨hvalid, sorted, hsort, hsubperm⟩ := hplanned
  obtain ⟨filter, sort, limit⟩ := question
  rw [Schema.validate_eq_ok_iff] at hvalid
  dsimp only at hvalid hsort hsubperm
  have hbuilt := hsubperm.subset hquery
  have hsorts : query.sorts = [] ∨
      ∃ sort, query.sorts = [sort] ∧ sort.property ∈ schema.sortable ∧
        sent = [query] ∧ query.filter = filter := by
    rcases Plan.queries_build limit sorted filter with hsingle | hunsorted
    · rw [hsingle] at hbuilt hsubperm
      rw [List.mem_singleton] at hbuilt
      subst hbuilt
      cases sorted with
      | none => exact Or.inl rfl
      | some sorted =>
          right
          have honly := (List.subperm_singleton_iff.mp hsubperm).resolve_left
            (List.ne_nil_of_mem hquery)
          exact ⟨sorted, rfl, Schema.mem_sortable_of_resolveSort hsort, honly, rfl⟩
    · exact Or.inl (hunsorted query hbuilt)
  cases filter with
  | none =>
      rw [Plan.build, Plan.queries, List.mem_singleton] at hbuilt
      subst hbuilt
      constructor
      · intro part hpart
        cases hpart
      · exact fun _ => rfl
      · intro part hpart
        cases hpart
      · intro part hpart
        cases hpart
      · exact hsorts
  | some whole =>
      obtain ⟨part, hpart, hwithin, hlevel⟩ := Plan.part_of_mem_queries_ofFilter hbuilt
      obtain ⟨carried, sorts⟩ := query
      cases hpart
      constructor
      · intro other hother
        cases hother
        exact ⟨whole, rfl, hwithin⟩
      · intro hnone
        cases hnone
      · intro other hother leaf hleaf
        cases hother
        exact hvalid whole rfl leaf (Filter.leaves_subset_of_within hwithin hleaf)
      · intro other hother
        cases hother
        exact hlevel
      · exact hsorts

/-! ## Operations -/

/-- An operation sends nothing, or it sends queries of the plan of its question and
is not rejected. -/
def Sends (schema : Schema) (question? : Option Question) (rejected : Prop)
    (sent : List Query) : Prop :=
  sent = [] ∨ (¬rejected ∧
    ∃ question, question? = some question ∧ Planned schema question sent)

theorem Sends.imp {schema : Schema} {question? : Option Question}
    {rejected rejected' : Prop} {sent : List Query}
    (hsends : Sends schema question? rejected sent) (himp : rejected' → rejected) :
    Sends schema question? rejected' sent :=
  hsends.imp_right (And.imp_left fun haccepted hrejected => haccepted (himp hrejected))

namespace Outcome

variable {why : Rejection}

theorem eq_of_rejection?_ofRecords {result : Except ResolveError (List Record)}
    (hrejected : (ofRecords result).rejection? = some why) :
    result = .error (.rejected why) := by
  cases result with
  | ok records => cases hrejected
  | error error =>
      cases error with
      | remote error => cases hrejected
      | rejected other =>
          cases hrejected
          rfl

theorem eq_of_rejection?_ofCancelled
    {result : Except ResolveError (Option (List Record))}
    (hrejected : (ofCancelled result).rejection? = some why) :
    result = .error (.rejected why) := by
  cases result with
  | ok records => cases records <;> cases hrejected
  | error error =>
      cases error with
      | remote error => cases hrejected
      | rejected other =>
          cases hrejected
          rfl

end Outcome

namespace Service

variable {service : Service} {filter : Option Filter} {sort : Option SortRequest}
variable {limit : Nat}

theorem planned_of_plan {plan : Plan} {sent : List Query}
    (hplan : (service.plan filter sort limit).value = .ok plan)
    (hsubperm : sent.Subperm plan.queries) :
    Planned service.schema ⟨filter, sort, limit⟩ sent := by
  obtain ⟨hvalid, sorted, hsort, rfl⟩ := plan_eq_ok_iff.mp hplan
  exact ⟨hvalid, sorted, hsort, hsubperm⟩

theorem sends_resolve (service : Service) (filter : Option Filter)
    (sort : Option SortRequest) (limit : Nat) :
    Sends service.schema (some ⟨filter, sort, limit⟩)
      (∃ why, (service.resolve filter sort limit).value = .error (.rejected why))
      (service.resolve filter sort limit).effects.sent := by
  cases hplan : (service.plan filter sort limit).value with
  | error why => exact Or.inl (sent_resolve_rejected hplan)
  | ok plan =>
      refine Or.inr ⟨?_, _, rfl, planned_of_plan hplan (sent_resolve_subperm hplan)⟩
      rintro ⟨why, hrejected⟩
      obtain ⟨-, -, failure, -, herror⟩ :=
        exists_query_of_resolve_eq_error hplan hrejected
      cases herror

theorem sends_cancel (service : Service) (filter : Option Filter)
    (sort : Option SortRequest) (limit : Nat) :
    Sends service.schema (some ⟨filter, sort, limit⟩)
      (∃ why, (service.cancel filter sort limit).value = .error (.rejected why))
      (service.cancel filter sort limit).effects.sent := by
  cases hplan : (service.plan filter sort limit).value with
  | error why => exact Or.inl (sent_cancel_rejected hplan)
  | ok plan =>
      refine Or.inr ⟨?_, _, rfl, planned_of_plan hplan ?_⟩
      · rintro ⟨why, hrejected⟩
        rw [cancel] at hrejected
        simp only [Traced.value_bind, value_start, hplan] at hrejected
        split at hrejected
        · rename_i result _
          rw [Traced.value_bind, Traced.value_pure, value_finish] at hrejected
          cases result <;> cases hrejected
        · cases hrejected
      · rw [sent_cancel hplan]
        exact Plan.sent_launch_subperm plan service.answer service.resumption

theorem sends_resolveRequest (service : Service) (request : ResolveRequest)
    (default : Nat) :
    Sends service.schema (request.question? service.schema default)
      (∃ why, (service.resolveRequest request default).value = .error (.rejected why))
      (service.resolveRequest request default).effects.sent := by
  rw [resolveRequest, ResolveRequest.question?]
  cases hread : service.schema.readFilter request.filter with
  | error why => exact Or.inl rfl
  | ok filter => exact sends_resolve service filter request.sort (request.limit default)

theorem sends_runQuery (service : Service) (input : ByteArray) (default : Nat) :
    Sends service.schema (Operation.question? service.schema (.runQuery input default))
      (∃ why, (Outcome.ofText
        (Command.runQuery service default input).value).rejection? = some why)
      (Command.runQuery service default input).effects.sent := by
  rw [Command.runQuery, Operation.question?]
  cases hread : Command.readRequest input with
  | error error => exact Or.inl rfl
  | ok request =>
      have hrequest := sends_resolveRequest { service with resumption := .duringPoll }
        request default
      simp only [Traced.value_bind, Traced.effects_bind, Effects.sent_append]
      generalize resolveRequest { service with resumption := .duringPoll } request
        default = resolved at *
      obtain ⟨result, effects⟩ := resolved
      cases result with
      | ok records =>
          rw [Traced.effects_pure, List.append_nil]
          apply hrequest.imp
          rintro ⟨why, ⟨⟩⟩
      | error error =>
          rw [Traced.effects_pure, List.append_nil]
          apply hrequest.imp
          cases error with
          | remote error => rintro ⟨why, ⟨⟩⟩
          | rejected why => exact fun _ => ⟨why, rfl⟩

theorem sent_runExplain (service : Service) (input : ByteArray) (default : Nat) :
    (Command.runExplain service default input).effects.sent = [] := by
  rw [Command.runExplain]
  split
  · rfl
  · rw [Traced.effects_bind, Effects.sent_append, sent_explain]
    split <;> rfl

/-- What one operation sends. -/
theorem sends_perform (service : Service) (operation : Operation) :
    Sends service.schema (operation.question? service.schema)
      (∃ why, (service.perform operation).value.rejection? = some why)
      (service.perform operation).effects.sent := by
  cases operation with
  | resolve filter sort limit =>
      rw [perform, Traced.effects_bind, Traced.effects_pure, Effects.append_empty]
      apply (sends_resolve service filter sort limit).imp
      rintro ⟨why, hrejected⟩
      exact ⟨why, Outcome.eq_of_rejection?_ofRecords hrejected⟩
  | cancel filter sort limit resumption =>
      rw [perform, Traced.effects_bind, Traced.effects_pure, Effects.append_empty]
      apply (sends_cancel { service with resumption } filter sort limit).imp
      rintro ⟨why, hrejected⟩
      exact ⟨why, Outcome.eq_of_rejection?_ofCancelled hrejected⟩
  | plan filter sort limit =>
      left
      rw [perform, Traced.effects_bind, Traced.effects_pure, Effects.append_empty]
      exact sent_plan service filter sort limit
  | resolveRequest request default =>
      rw [perform, Traced.effects_bind, Traced.effects_pure, Effects.append_empty]
      apply (sends_resolveRequest service request default).imp
      rintro ⟨why, hrejected⟩
      exact ⟨why, Outcome.eq_of_rejection?_ofRecords hrejected⟩
  | explain request default =>
      left
      rw [perform, Traced.effects_bind, Traced.effects_pure, Effects.append_empty]
      exact sent_explain service request default
  | runQuery input default =>
      rw [perform, Traced.effects_bind, Traced.effects_pure, Effects.append_empty]
      exact sends_runQuery service input default
  | runExplain input default =>
      left
      rw [perform, Traced.effects_bind, Traced.effects_pure, Effects.append_empty]
      exact sent_runExplain service input default

theorem sent_run (service : Service) (past : Effects) (operations : List Operation) :
    (service.run past operations).sent =
      past.sent ++ operations.flatMap fun operation =>
        (service.perform operation).effects.sent := by
  induction operations generalizing past with
  | nil => exact (List.append_nil _).symm
  | cons operation operations ih =>
      rw [run, List.foldl_cons, ← run, ih, step, Effects.sent_append, List.append_assoc]
      rfl

end Service

/-- Whatever operations a session performs, the client has received what they send,
in turn, and each query is permitted for the question of its operation.  Rejected
operations and those that only plan send nothing. -/
theorem request_log_permitted (service : Service) (operations : List Operation) :
    (service.run {} operations).sent =
        operations.flatMap (fun operation => (service.perform operation).effects.sent) ∧
      ∀ operation ∈ operations,
        (∀ query ∈ (service.perform operation).effects.sent,
          ∃ question, operation.question? service.schema = some question ∧
            Permitted service.schema question
              (service.perform operation).effects.sent query) ∧
        (∀ why, (service.perform operation).value.rejection? = some why →
          (service.perform operation).effects.sent = []) ∧
        (operation.onlyPlans = true →
          (service.perform operation).effects.sent = []) := by
  constructor
  · rw [service.sent_run, List.nil_append]
  · intro operation _
    have hsends := service.sends_perform operation
    refine ⟨?_, ?_, ?_⟩
    · intro query hquery
      obtain ⟨-, question, hquestion, hplanned⟩ :=
        hsends.resolve_left (List.ne_nil_of_mem hquery)
      exact ⟨question, hquestion, hplanned.permitted hquery⟩
    · intro why hrejected
      apply hsends.resolve_right
      rintro ⟨haccepted, -⟩
      exact haccepted ⟨why, hrejected⟩
    · intro hplans
      apply hsends.resolve_right
      rintro ⟨-, question, hquestion, -⟩
      rw [Operation.question?_of_onlyPlans hplans] at hquestion
      cases hquestion

/-- A query of the whole filter carries the sort, a split filter drops it, and a
sort by an unlisted property is rejected. -/
example :
    ((⟨.default, AnswerTable.answer {}, "0", .afterPoll⟩ : Service).run {}
      [.resolve (some (Filter.statusIs "Open")) (some ⟨some "Name", none⟩) 0,
        .cancel (some (.group .and [Filter.statusIs "Open", Filter.statusIs "Won"]))
          (some ⟨some "Name", none⟩) 0,
        .resolve (some (Filter.statusIs "Open")) (some ⟨some "Color", none⟩) 0]).sent =
      [⟨some (Filter.statusIs "Open"), [⟨"Name", .ascending⟩]⟩,
        ⟨some (Filter.statusIs "Open"), []⟩, ⟨some (Filter.statusIs "Won"), []⟩] := by
  decide

end NestedQuery
