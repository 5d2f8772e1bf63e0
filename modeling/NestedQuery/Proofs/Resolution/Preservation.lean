import NestedQuery.Proofs.Evaluation
import NestedQuery.Proofs.Resolution.Step
import Mathlib.Data.List.Perm.Subperm

/-!
# What steps keep

An execution has queries that are still unsent, an answer it comes to when its
children are taken from left to right, and failures it may still meet.  A step
sends queries that were unsent and no others; it keeps the answer if there is
one, and it brings no new failure.  As long as there is an answer nothing is
dropped, so every query is sent in the end.  A failure arrives with a query that
is sent, and no other way.

A group may meet its failures in another order than from left to right.  Only
the answer of an execution without failures is therefore kept.
-/

namespace NestedQuery

namespace Execution

/-- Induction with one hypothesis for all children of a group. -/
@[elab_as_elim]
theorem induct {motive : Execution → Prop}
    (planned : ∀ plan, motive (.planned plan))
    (waiting : ∀ reply, motive (.waiting reply))
    (joining : ∀ op children queue, (∀ child ∈ children, motive child) →
      motive (.joining op children queue))
    (finished : ∀ result, motive (.finished result)) :
    ∀ execution, motive execution
  | .planned plan => planned plan
  | .waiting reply => waiting reply
  | .joining op children queue =>
      joining op children queue fun child _hmem =>
        induct planned waiting joining finished child
  | .finished result => finished result
termination_by execution => sizeOf execution
decreasing_by
  have hlt := List.sizeOf_lt_of_mem _hmem
  simp_wf
  omega

mutual

/-- The queries that have not been sent yet, from left to right. -/
def unsent : Execution → List Query
  | .planned plan => plan.queries
  | .waiting _ => []
  | .joining _ children _ => allUnsent children
  | .finished _ => []

def allUnsent : List Execution → List Query
  | [] => []
  | child :: children => child.unsent ++ allUnsent children

end

mutual

/-- What an execution comes to when its children are taken from left to right. -/
def evaluate (answer : Answer) : Execution → Except RemoteError (List Record)
  | .planned plan => plan.evaluate answer
  | .waiting reply => reply.map Page.records
  | .joining op children _ =>
      (gather (evaluateAll answer children)).map (NestedQuery.merge op)
  | .finished result => result

def evaluateAll (answer : Answer) :
    List Execution → List (Except RemoteError (List Record))
  | [] => []
  | child :: children => child.evaluate answer :: evaluateAll answer children

end

mutual

/-- The failures an execution has met or may still meet. -/
def failures (answer : Answer) : Execution → List RemoteError
  | .planned plan => plan.queries.filterMap answer.failure?
  | .waiting reply => (failureOf reply).toList
  | .joining _ children _ => allFailures answer children
  | .finished result => (failureOf result).toList

def allFailures (answer : Answer) : List Execution → List RemoteError
  | [] => []
  | child :: children => child.failures answer ++ allFailures answer children

end

mutual

/-- The failures that have arrived: those of answers to be taken, and those that parts
have ended with. -/
def arrived : Execution → List RemoteError
  | .planned _ => []
  | .waiting reply => (failureOf reply).toList
  | .joining _ children _ => allArrived children
  | .finished result => (failureOf result).toList

def allArrived : List Execution → List RemoteError
  | [] => []
  | child :: children => child.arrived ++ allArrived children

end

theorem unsent_joining (op : BoolOp) (children : List Execution)
    (queue : List Nat) :
    (joining op children queue).unsent = children.flatMap unsent := by
  rw [unsent]
  induction children with
  | nil => rfl
  | cons child children ih => rw [allUnsent, ih, List.flatMap_cons]

theorem evaluate_joining (answer : Answer) (op : BoolOp)
    (children : List Execution) (queue : List Nat) :
    (joining op children queue).evaluate answer =
      (gather (children.map (evaluate answer))).map (NestedQuery.merge op) := by
  have hall : evaluateAll answer children = children.map (evaluate answer) := by
    induction children with
    | nil => rfl
    | cons child children ih => rw [evaluateAll, ih, List.map_cons]
  rw [evaluate, hall]

theorem failures_joining (answer : Answer) (op : BoolOp)
    (children : List Execution) (queue : List Nat) :
    (joining op children queue).failures answer =
      children.flatMap (failures answer) := by
  rw [failures]
  induction children with
  | nil => rfl
  | cons child children ih => rw [allFailures, ih, List.flatMap_cons]

theorem arrived_joining (op : BoolOp) (children : List Execution) (queue : List Nat) :
    (joining op children queue).arrived = children.flatMap arrived := by
  rw [arrived]
  induction children with
  | nil => rfl
  | cons child children ih => rw [allArrived, ih, List.flatMap_cons]

theorem results?_eq_some_iff {children : List Execution}
    {lists : List (List Record)} :
    results? children = some lists ↔
      children = lists.map fun records => .finished (.ok records) := by
  induction children generalizing lists with
  | nil => cases lists <;> simp [results?]
  | cons child children ih =>
      cases child with
      | finished result =>
          cases result with
          | error error => cases lists <;> simp [results?]
          | ok records =>
              cases lists with
              | nil => simp [results?]
              | cons head tail =>
                  simp only [results?, Option.map_eq_some_iff, List.cons.injEq,
                    List.map_cons, finished.injEq, Except.ok.injEq]
                  constructor
                  · rintro ⟨rest, hrest, rfl, rfl⟩
                    exact ⟨rfl, ih.mp hrest⟩
                  · rintro ⟨rfl, hrest⟩
                    exact ⟨tail, ih.mpr hrest, rfl, rfl⟩
      | planned plan => cases lists <;> simp [results?]
      | waiting reply => cases lists <;> simp [results?]
      | joining op children queue => cases lists <;> simp [results?]

variable {answer : Answer} {before after : Execution} {effects : Effects}

/-! ## Answers -/

/-- A step keeps the answer, if there is one. -/
theorem Step.evaluate_eq_ok_iff (hstep : Step answer before effects after)
    (records : List Record) :
    before.evaluate answer = .ok records ↔ after.evaluate answer = .ok records := by
  induction hstep generalizing records with
  | send hanswer => rw [evaluate, evaluate, Plan.evaluate, hanswer]; rfl
  | refuse hanswer => rw [evaluate, evaluate, Plan.evaluate, hanswer]; rfl
  | receive page => rfl
  | fail error => rfl
  | split op level plans queue =>
      rw [evaluate, evaluate_joining, Plan.evaluate_merge, List.map_map]
      rfl
  | @child op left right queue before after effects hstep ih =>
      rw [evaluate_joining, evaluate_joining, map_eq_ok_iff, map_eq_ok_iff]
      apply exists_congr
      intro lists
      apply and_congr_left
      intro _
      rw [List.map_append, List.map_append, List.map_cons, List.map_cons]
      exact gather_replace_eq_ok_iff ih _ _ lists
  | requeue op children queue other => rw [evaluate_joining, evaluate_joining]
  | merge hresults =>
      rw [results?_eq_some_iff] at hresults
      subst hresults
      rw [evaluate_joining, List.map_map]
      change (gather (List.map Except.ok _)).map _ = _ ↔ _
      rw [gather_map_ok]
      rfl
  | @abort op children queue error hmem =>
      rw [evaluate_joining, map_eq_ok_iff, evaluate]
      constructor
      · rintro ⟨lists, hgather, -⟩
        obtain ⟨list, hlist⟩ := exists_of_gather hgather _ hmem
        cases hlist
      · intro hne
        cases hne

theorem Steps.evaluate_eq_ok_iff (hsteps : Steps answer before effects after)
    (records : List Record) :
    before.evaluate answer = .ok records ↔ after.evaluate answer = .ok records := by
  induction hsteps with
  | refl execution => rfl
  | head hstep _ ih => exact (hstep.evaluate_eq_ok_iff records).trans ih

/-! ## Failures -/

theorem Step.failures_subset (hstep : Step answer before effects after) :
    after.failures answer ⊆ before.failures answer := by
  induction hstep with
  | @send filter sort level reply hanswer =>
      rw [failures, failures, Plan.queries, List.filterMap_cons, Answer.failure?,
        hanswer]
      cases reply <;> exact List.Subset.refl _
  | refuse hanswer =>
      rw [failures, failures, Plan.queries, List.filterMap_cons, Answer.failure?,
        hanswer]
      exact List.Subset.refl _
  | receive page => exact List.Subset.refl _
  | fail error => exact List.Subset.refl _
  | split op level plans queue =>
      rw [failures_joining, failures, Plan.queries_merge]
      intro error hmem
      obtain ⟨child, hchild, hmem⟩ := List.mem_flatMap.mp hmem
      obtain ⟨plan, hplan, rfl⟩ := List.mem_map.mp hchild
      obtain ⟨query, hquery, hfailure⟩ := List.mem_filterMap.mp hmem
      exact List.mem_filterMap.mpr
        ⟨query, List.mem_flatMap.mpr ⟨plan, hplan, hquery⟩, hfailure⟩
  | child hstep ih =>
      rw [failures_joining, failures_joining, List.flatMap_append,
        List.flatMap_append, List.flatMap_cons, List.flatMap_cons]
      intro error hmem
      simp only [List.mem_append] at hmem ⊢
      exact hmem.imp_right (Or.imp_left fun hafter => ih hafter)
  | requeue op children queue other =>
      rw [failures_joining, failures_joining]
      exact List.Subset.refl _
  | merge hresults => exact List.nil_subset _
  | abort hmem =>
      rw [failures_joining]
      intro error herror
      exact List.mem_flatMap.mpr ⟨_, hmem, herror⟩

theorem Steps.failures_subset (hsteps : Steps answer before effects after) :
    after.failures answer ⊆ before.failures answer := by
  induction hsteps with
  | refl execution => exact List.Subset.refl _
  | head hstep _ ih => exact List.Subset.trans ih hstep.failures_subset

/-- A failure that arrives by a step is that of a query it sends. -/
theorem Step.exists_sent_of_arrived (hstep : Step answer before effects after)
    {error : RemoteError} (harrived : error ∈ after.arrived) :
    error ∈ before.arrived ∨
      ∃ query ∈ effects.sent, answer.failure? query = some error := by
  induction hstep with
  | @send filter sort level reply hanswer =>
      have hfailure : answer.failure? (.ofSort filter sort) = some error := by
        rw [Answer.failure?, hanswer]
        exact Option.mem_toList.mp harrived
      exact Or.inr ⟨_, List.mem_singleton_self _, hfailure⟩
  | @refuse filter sort level other hanswer =>
      have hfailure : answer.failure? (.ofSort filter sort) = some error := by
        rw [Answer.failure?, hanswer]
        exact Option.mem_toList.mp harrived
      exact Or.inr ⟨_, List.mem_singleton_self _, hfailure⟩
  | receive page => cases harrived
  | fail other => exact Or.inl harrived
  | split op level plans queue =>
      rw [arrived_joining, List.mem_flatMap] at harrived
      obtain ⟨child, hchild, harrived⟩ := harrived
      obtain ⟨plan, -, rfl⟩ := List.mem_map.mp hchild
      cases harrived
  | child hstep ih =>
      rw [arrived_joining, List.flatMap_append, List.flatMap_cons] at harrived ⊢
      simp only [List.mem_append] at harrived ⊢
      rcases harrived with hleft | hafter | hright
      · exact Or.inl (Or.inl hleft)
      · exact (ih hafter).imp_left fun hbefore => Or.inr (Or.inl hbefore)
      · exact Or.inl (Or.inr (Or.inr hright))
  | requeue op children queue other =>
      rw [arrived_joining] at harrived ⊢
      exact Or.inl harrived
  | merge hresults => cases harrived
  | abort hmem =>
      rw [arrived_joining]
      exact Or.inl (List.mem_flatMap.mpr ⟨_, hmem, harrived⟩)

theorem Steps.exists_sent_of_arrived (hsteps : Steps answer before effects after)
    {error : RemoteError} (harrived : error ∈ after.arrived) :
    error ∈ before.arrived ∨
      ∃ query ∈ effects.sent, answer.failure? query = some error := by
  induction hsteps with
  | refl execution => exact Or.inl harrived
  | @head _ _ _ first rest hstep _ ih =>
      simp only [Effects.sent_append, List.mem_append]
      rcases ih harrived with hmiddle | ⟨query, hquery, hfailure⟩
      · apply (hstep.exists_sent_of_arrived hmiddle).imp_right
        rintro ⟨query, hquery, hfailure⟩
        exact ⟨query, Or.inl hquery, hfailure⟩
      · exact Or.inr ⟨query, Or.inr hquery, hfailure⟩

/-! ## Queries -/

theorem unsent_eq_nil_of_results? {children : List Execution}
    {lists : List (List Record)} (hresults : results? children = some lists)
    (op : BoolOp) (queue : List Nat) : (joining op children queue).unsent = [] := by
  rw [results?_eq_some_iff] at hresults
  subst hresults
  rw [unsent_joining, List.flatMap_eq_nil_iff]
  intro child hmem
  obtain ⟨records, -, rfl⟩ := List.mem_map.mp hmem
  rfl

/-- What a step sends and what is still unsent after it was unsent before.  The
rest is dropped, and only where there is no answer. -/
theorem Step.exists_dropped (hstep : Step answer before effects after) :
    ∃ dropped, (effects.sent ++ after.unsent ++ dropped).Perm before.unsent ∧
      ∀ records, before.evaluate answer = .ok records → dropped = [] := by
  induction hstep with
  | send hanswer => exact ⟨[], List.Perm.refl _, fun _ _ => rfl⟩
  | refuse hanswer => exact ⟨[], List.Perm.refl _, fun _ _ => rfl⟩
  | receive page => exact ⟨[], List.Perm.refl _, fun _ _ => rfl⟩
  | fail error => exact ⟨[], List.Perm.refl _, fun _ _ => rfl⟩
  | split op level plans queue =>
      refine ⟨[], ?_, fun _ _ => rfl⟩
      rw [unsent_joining, unsent, Plan.queries_merge, List.flatMap_map,
        List.append_nil]
      exact List.Perm.refl _
  | @child op left right queue before after effects hstep ih =>
      obtain ⟨dropped, hperm, hkept⟩ := ih
      refine ⟨dropped, ?_, ?_⟩
      · rw [unsent_joining, unsent_joining, List.flatMap_append,
          List.flatMap_append, List.flatMap_cons, List.flatMap_cons]
        rw [List.perm_iff_count] at hperm ⊢
        intro query
        have hcount := hperm query
        simp only [List.count_append] at hcount ⊢
        omega
      · intro records heval
        rw [evaluate_joining, map_eq_ok_iff] at heval
        obtain ⟨lists, hgather, -⟩ := heval
        obtain ⟨list, hlist⟩ := exists_of_gather hgather before
          (List.mem_append_right _ List.mem_cons_self)
        exact hkept list hlist
  | requeue op children queue other =>
      refine ⟨[], ?_, fun _ _ => rfl⟩
      rw [unsent_joining, unsent_joining, List.append_nil]
      exact List.Perm.refl _
  | merge hresults =>
      refine ⟨[], ?_, fun _ _ => rfl⟩
      rw [unsent_eq_nil_of_results? hresults]
      exact List.Perm.refl _
  | @abort op children queue error hmem =>
      -- Everything unsent is dropped, and with a failed child there is no answer.
      refine ⟨(joining op children queue).unsent, List.Perm.refl _, ?_⟩
      intro records heval
      have hstep : Step answer (.joining op children queue) {} _ := .abort hmem
      cases (hstep.evaluate_eq_ok_iff records).mp heval

theorem Steps.exists_dropped (hsteps : Steps answer before effects after) :
    ∃ dropped, (effects.sent ++ after.unsent ++ dropped).Perm before.unsent ∧
      ∀ records, before.evaluate answer = .ok records → dropped = [] := by
  induction hsteps with
  | refl execution =>
      refine ⟨[], ?_, fun _ _ => rfl⟩
      rw [List.append_nil]
      exact List.Perm.refl _
  | head hstep _ ih =>
      obtain ⟨early, hfirst, hearly⟩ := hstep.exists_dropped
      obtain ⟨late, hrest, hlate⟩ := ih
      refine ⟨late ++ early, ?_, fun records heval => ?_⟩
      · rw [List.perm_iff_count] at hfirst hrest ⊢
        intro query
        have hcount := hfirst query
        have hcounts := hrest query
        simp only [List.count_append, Effects.sent_append] at hcount hcounts ⊢
        omega
      · have hmiddle := (hstep.evaluate_eq_ok_iff records).mp heval
        rw [hearly records heval, hlate records hmiddle]
        rfl

/-- Steps send unsent queries, each at most as often as it was unsent. -/
theorem Steps.sent_subperm (hsteps : Steps answer before effects after) :
    effects.sent.Subperm before.unsent := by
  obtain ⟨dropped, hperm, -⟩ := hsteps.exists_dropped
  rw [List.append_assoc] at hperm
  exact (List.sublist_append_left _ _).subperm.trans hperm.subperm

/-- Steps that end with the answer have sent every query. -/
theorem Steps.sent_perm {records : List Record}
    (hsteps : Steps answer before effects (.finished (.ok records))) :
    effects.sent.Perm before.unsent := by
  obtain ⟨dropped, hperm, hkept⟩ := hsteps.exists_dropped
  have heval := (hsteps.evaluate_eq_ok_iff records).mpr rfl
  rw [hkept records heval] at hperm
  simpa [unsent] using hperm

end Execution

end NestedQuery
