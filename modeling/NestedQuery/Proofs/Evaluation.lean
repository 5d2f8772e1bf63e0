import NestedQuery.Proofs.Gathering
import NestedQuery.Proofs.Merging
import NestedQuery.Proofs.Planning
import NestedQuery.Query.AnswerTable
import Mathlib.Tactic.Choose

/-!
# Evaluating plans

The answer to a plan, without any scheduling: a direct step is what the client
answers to its query, and a merge step merges the answers to its children.  The
children are taken from left to right and the first failure ends the evaluation,
so the failure of a plan is that of the first of its queries that fails.

The records of an evaluated plan are records of its direct steps.  An identifier
is among them if the plan is true as a formula, in which a direct step is true
if its own answer has the identifier.
-/

namespace NestedQuery

namespace Answer

/-- The failure of a query, if it fails. -/
def failure? (answer : Answer) (query : Query) : Option RemoteError :=
  failureOf (answer query).outcome

/-- The records of the answer to a query; none if the query fails. -/
def records (answer : Answer) (query : Query) : List Record :=
  match (answer query).outcome with
  | .ok page => page.records
  | .error _ => []

theorem outcome_of_failure?_eq_none {answer : Answer} {query : Query}
    (hanswer : answer.failure? query = none) :
    (answer query).outcome.map Page.records = .ok (answer.records query) := by
  obtain ⟨page, hpage⟩ := failureOf_eq_none_iff.mp hanswer
  rw [records, hpage, Except.map]

end Answer

namespace Plan

mutual

/-- The answer to a plan. -/
def evaluate (answer : Answer) : Plan → Except RemoteError (List Record)
  | .direct filter sort _ => (answer (.ofSort filter sort)).outcome.map Page.records
  | .merge op _ children => (evaluateAll answer children).map (NestedQuery.merge op)

def evaluateAll (answer : Answer) : List Plan → Except RemoteError (List (List Record))
  | [] => .ok []
  | plan :: plans => do
      let head ← plan.evaluate answer
      let tail ← evaluateAll answer plans
      return head :: tail

end

theorem evaluateAll_eq_gather (answer : Answer) (plans : List Plan) :
    evaluateAll answer plans = gather (plans.map (evaluate answer)) := by
  induction plans with
  | nil => rfl
  | cons plan plans ih =>
      rw [evaluateAll, List.map_cons, ih]
      cases plan.evaluate answer with
      | error error => rfl
      | ok records => rfl

theorem evaluate_merge (answer : Answer) (op : BoolOp) (level : Nat)
    (children : List Plan) :
    (merge op level children).evaluate answer =
      (gather (children.map (evaluate answer))).map (NestedQuery.merge op) := by
  rw [evaluate, evaluateAll_eq_gather]

/-- The failure of a plan is that of its first query that fails. -/
theorem failureOf_evaluate (answer : Answer) (plan : Plan) :
    failureOf (plan.evaluate answer) = plan.queries.findSome? answer.failure? := by
  induction plan using Plan.induct with
  | direct filter sort level =>
      rw [evaluate, failureOf_map, queries, List.findSome?_cons, Answer.failure?]
      cases (answer (.ofSort filter sort)).outcome <;> rfl
  | merge op level children ih =>
      rw [evaluate_merge, failureOf_map, failureOf_gather, queries_merge]
      induction children with
      | nil => rfl
      | cons child children ihs =>
          obtain ⟨hchild, hchildren⟩ := List.forall_mem_cons.mp ih
          rw [List.map_cons, List.findSome?_cons, hchild, ihs hchildren,
            List.flatMap_cons, List.findSome?_append]
          cases child.queries.findSome? answer.failure? <;> rfl

/-- A plan none of whose queries fails has an answer. -/
theorem exists_evaluate_eq_ok {answer : Answer} {plan : Plan}
    (hanswers : ∀ query ∈ plan.queries, answer.failure? query = none) :
    ∃ records, plan.evaluate answer = .ok records := by
  rw [← failureOf_eq_none_iff, failureOf_evaluate, List.findSome?_eq_none_iff]
  exact hanswers

theorem failure?_eq_none_of_evaluate_eq_ok {answer : Answer} {plan : Plan}
    {records : List Record} (heval : plan.evaluate answer = .ok records) :
    ∀ query ∈ plan.queries, answer.failure? query = none := by
  have hnone := failureOf_evaluate answer plan
  rw [heval, failureOf_ok] at hnone
  exact List.findSome?_eq_none_iff.mp hnone.symm

/-- Induction over the plans that have an answer: a direct step has the records
of its query, and a merge step merges the answers to its children. -/
@[elab_as_elim]
theorem evaluate_induct {answer : Answer}
    {motive : ∀ plan records, plan.evaluate answer = .ok records → Prop}
    (direct : ∀ filter sort level heval,
      motive (.direct filter sort level) (answer.records (.ofSort filter sort)) heval)
    (merge : ∀ op level children (answers : Plan → List Record)
      (hanswers : ∀ child ∈ children, child.evaluate answer = .ok (answers child))
      (heval : (merge op level children).evaluate answer =
        .ok (NestedQuery.merge op (children.map answers))),
      (∀ child hmem, motive child (answers child) (hanswers child hmem)) →
      motive (.merge op level children)
        (NestedQuery.merge op (children.map answers)) heval)
    {plan : Plan} {records : List Record}
    (heval : plan.evaluate answer = .ok records) : motive plan records heval := by
  induction plan using Plan.induct generalizing records with
  | direct filter sort level =>
      have hanswer := failure?_eq_none_of_evaluate_eq_ok heval
      rw [queries, List.forall_mem_singleton] at hanswer
      have hrecords : records = answer.records (.ofSort filter sort) := by
        rw [evaluate, Answer.outcome_of_failure?_eq_none hanswer] at heval
        exact (Except.ok.inj heval).symm
      subst hrecords
      exact direct filter sort level heval
  | merge op level children ih =>
      obtain ⟨lists, hgather, hrecords⟩ := map_eq_ok_iff.mp
        ((evaluate_merge answer op level children).symm.trans heval)
      have heach := exists_of_gather hgather
      choose! answers hanswers using heach
      rw [gather_map_eq_ok hanswers] at hgather
      cases hgather
      subst hrecords
      exact merge op level children answers hanswers heval
        fun child hmem => ih child hmem (hanswers child hmem)

/-! ## Records of an answer -/

/-- Every record of an answer to a plan was an answer to one of its queries. -/
theorem exists_query_of_mem_evaluate {answer : Answer} {plan : Plan}
    {records : List Record} (heval : plan.evaluate answer = .ok records) :
    ∀ record ∈ records, ∃ query ∈ plan.queries, record ∈ answer.records query := by
  induction heval using evaluate_induct with
  | direct filter sort level _ =>
      intro record hmem
      exact ⟨.ofSort filter sort, List.mem_singleton_self _, hmem⟩
  | merge op level children answers _ _ ih =>
      intro record hmem
      obtain ⟨list, hlist, hmem⟩ := exists_mem_of_mem_merge op hmem
      obtain ⟨child, hchild, rfl⟩ := List.mem_map.mp hlist
      obtain ⟨query, hquery, hrecord⟩ := ih child hchild record hmem
      exact ⟨query, mem_queries_merge hchild hquery, hrecord⟩

theorem distinctIds_evaluate {answer : Answer} {plan : Plan}
    {records : List Record} (heval : plan.evaluate answer = .ok records) :
    (∀ query ∈ plan.queries, DistinctIds (answer.records query)) →
      DistinctIds records := by
  induction heval using evaluate_induct with
  | direct filter sort level _ =>
      intro hanswers
      exact hanswers (.ofSort filter sort) (List.mem_singleton_self _)
  | merge op level children answers _ _ ih =>
      intro hanswers
      apply distinctIds_merge
      intro list hlist
      obtain ⟨child, hchild, rfl⟩ := List.mem_map.mp hlist
      exact ih child hchild fun query hquery =>
        hanswers query (mem_queries_merge hchild hquery)

mutual

/-- The truth of a plan as a formula over its direct steps: a merge by `and` is a
conjunction, a merge by `or` a disjunction. -/
def truth (holds : Query → Bool) : Plan → Bool
  | .direct filter sort _ => holds (.ofSort filter sort)
  | .merge .and _ children => conjunction holds children
  | .merge .or _ children => disjunction holds children

def conjunction (holds : Query → Bool) : List Plan → Bool
  | [] => true
  | plan :: plans => plan.truth holds && conjunction holds plans

def disjunction (holds : Query → Bool) : List Plan → Bool
  | [] => false
  | plan :: plans => plan.truth holds || disjunction holds plans

end

theorem conjunction_eq_all (holds : Query → Bool) (plans : List Plan) :
    conjunction holds plans = plans.all (truth holds) := by
  induction plans with
  | nil => rfl
  | cons plan plans ih => rw [conjunction, ih, List.all_cons]

theorem disjunction_eq_any (holds : Query → Bool) (plans : List Plan) :
    disjunction holds plans = plans.any (truth holds) := by
  induction plans with
  | nil => rfl
  | cons plan plans ih => rw [disjunction, ih, List.any_cons]

/-- An identifier is in the answer to a plan if the plan is true as a formula in
which a direct step is true if its answer has the identifier. -/
theorem hasId_evaluate {answer : Answer} {plan : Plan} {records : List Record}
    (heval : plan.evaluate answer = .ok records) (id : String) :
    plan.Branching →
      hasId records id = plan.truth fun query => hasId (answer.records query) id := by
  induction heval using evaluate_induct with
  | direct filter sort level _ =>
      intro _
      rw [truth]
  | merge op level children answers _ _ ih =>
      intro hbranching
      cases hbranching with
      | merge hne hchildren =>
          have heach : ∀ child ∈ children, hasId (answers child) id =
              child.truth fun query => hasId (answer.records query) id :=
            fun child hmem => ih child hmem (hchildren child hmem)
          rw [Bool.eq_iff_iff]
          cases op with
          | and =>
              -- The intersection of no lists is empty, but a merge step has children.
              have hlists : children.map answers ≠ [] := fun hnil =>
                hne (List.map_eq_nil_iff.mp hnil)
              rw [NestedQuery.merge, hasId_intersection hlists, truth,
                conjunction_eq_all, List.all_eq_true, List.forall_mem_map]
              apply forall_congr'
              intro child
              apply imp_congr_right
              intro hmem
              rw [heach child hmem]
          | or =>
              rw [NestedQuery.merge, hasId_union, truth, disjunction_eq_any,
                List.any_eq_true]
              constructor
              · rintro ⟨list, hlist, hid⟩
                obtain ⟨child, hmem, rfl⟩ := List.mem_map.mp hlist
                exact ⟨child, hmem, heach child hmem ▸ hid⟩
              · rintro ⟨child, hmem, htrue⟩
                exact ⟨answers child, List.mem_map_of_mem hmem,
                  (heach child hmem).trans htrue⟩

end Plan

end NestedQuery
