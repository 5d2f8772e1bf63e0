import NestedQuery.Proofs.Resolution.Polling

/-!
# Runs end

The work of an execution counts every query still to send twice and every answer
still to take once.  No step adds to it, and a poll of an execution that is not
done takes some of it away: in a narrow group every unfinished child is polled,
in a wide group at least the first of the queue.  A run is given more polls than
there is work, so it comes to its end, and what every sequence of steps keeps
holds of its result.
-/

namespace NestedQuery

namespace Execution

mutual

/-- The queries still to send, counted twice, and the answers still to take. -/
def work : Execution → Nat
  | .planned plan => 2 * plan.remoteCalls
  | .waiting _ => 1
  | .joining _ children _ => allWork children
  | .finished _ => 0

def allWork : List Execution → Nat
  | [] => 0
  | child :: children => child.work + allWork children

end

theorem allWork_planned (plans : List Plan) :
    allWork (plans.map planned) = 2 * Plan.allRemoteCalls plans := by
  induction plans with
  | nil => rfl
  | cons plan plans ih =>
      rw [List.map_cons, allWork, ih, work, Plan.allRemoteCalls, Nat.mul_add]

theorem allWork_replace (left right : List Execution) (child : Execution) :
    allWork (left ++ child :: right) = child.work + allWork (left ++ right) := by
  induction left with
  | nil => rfl
  | cons other left ih =>
      rw [List.cons_append, List.cons_append, allWork, allWork, ih, Nat.add_left_comm]

theorem allWork_map_le {f : Execution → Execution} {children : List Execution}
    (hle : ∀ child ∈ children, (f child).work ≤ child.work) :
    allWork (children.map f) ≤ allWork children := by
  induction children with
  | nil => exact Nat.le_refl _
  | cons child children ih =>
      obtain ⟨hchild, hchildren⟩ := List.forall_mem_cons.mp hle
      rw [List.map_cons, allWork, allWork]
      exact Nat.add_le_add hchild (ih hchildren)

theorem allWork_map_lt {f : Execution → Execution} {children : List Execution}
    (hle : ∀ child, (f child).work ≤ child.work) {child : Execution}
    (hmem : child ∈ children) (hlt : (f child).work < child.work) :
    allWork (children.map f) < allWork children := by
  obtain ⟨left, right, rfl⟩ := List.append_of_mem hmem
  rw [List.map_append, List.map_cons, allWork_replace, allWork_replace,
    ← List.map_append]
  exact Nat.add_lt_add_of_lt_of_le hlt (allWork_map_le fun other _ => hle other)

theorem Step.work_le {answer : Answer} {before after : Execution}
    {effects : Effects} (hstep : Step answer before effects after) :
    after.work ≤ before.work := by
  induction hstep with
  | send hanswer => exact Nat.le_succ 1
  | refuse hanswer => exact Nat.zero_le _
  | receive page => exact Nat.zero_le _
  | fail error => exact Nat.zero_le _
  | split op level plans queue =>
      exact Nat.le_of_eq (allWork_planned plans)
  | child hstep ih =>
      rw [work, work, allWork_replace, allWork_replace]
      exact Nat.add_le_add_right ih _
  | requeue op children queue other => exact Nat.le_refl _
  | merge hresults => exact Nat.zero_le _
  | abort hmem => exact Nat.zero_le _

theorem Steps.work_le {answer : Answer} {before after : Execution}
    {effects : Effects} (hsteps : Steps answer before effects after) :
    after.work ≤ before.work := by
  induction hsteps with
  | refl execution => exact Nat.le_refl _
  | head hstep _ ih => exact Nat.le_trans ih hstep.work_le

/-! ## Polls of groups -/

section Groups

variable {answer : Answer} {poll : Execution → Traced Polled}

/-- What a wide group does after it has polled the first child of its queue is
a sequence of steps. -/
theorem steps_pollQueue_first
    (hpoll : ∀ child, Steps answer child (poll child).effects
      (poll child).value.execution)
    (op : BoolOp) (unfinished : Nat) {round : Round} {position : Nat}
    {queue : List Nat} {child : Execution} (hqueue : round.queue = position :: queue)
    (hchild : round.children[position]? = some child) :
    ∃ effects, Steps answer
      (.joining op (round.children.set position (poll child).value.execution) [])
      effects
      (.joining op (pollQueue poll (unfinished + 1) round).value.children []) := by
  have hfirst : ∃ effects, Steps answer
      (.joining op (round.children.set position (poll child).value.execution) [])
      effects (.joining op
        (pollUntilDone poll (unfinished + 1) 2 round).value.2.children []) := by
    simp only [pollUntilDone, hqueue, hchild, Traced.value_bind]
    split
    · exact ⟨_, .refl _⟩
    · exact ⟨_, steps_pollUntilDone hpoll op [] unfinished _
        (round.replace position queue (poll child).value)⟩
  obtain ⟨effects, hfirst⟩ := hfirst
  rw [pollQueue]
  simp only [Traced.value_bind]
  split
  · split
    · exact ⟨effects, hfirst⟩
    · exact ⟨_, hfirst.trans (steps_pollQueue hpoll op [] unfinished _)⟩
  · exact ⟨effects, hfirst⟩

/-- A poll of a group does some of its work, if polls of its children do. -/
theorem work_pollGroup_lt
    (hsteps : ∀ child, Steps answer child (poll child).effects
      (poll child).value.execution)
    {op : BoolOp} {children : List Execution} {queue : List Nat}
    (hpoll : ∀ child ∈ children, Ready child → child.isFinished = false →
      (poll child).value.execution.work < child.work)
    (hready : Ready (.joining op children queue)) :
    (pollGroup poll op children queue).value.execution.work < allWork children := by
  have hless : ∀ child ∈ children, child.isFinished = false →
      (poll child).value.execution.work < child.work :=
    fun child hmem => hpoll child hmem (hready.child hmem)
  obtain ⟨first, child, hchild, hopen⟩ := hready.pending.exists_unfinished
  have hmem := List.mem_of_getElem? hchild
  have hpositive : 0 < allWork children := by
    have hsome := Nat.zero_lt_of_lt (hless child hmem hopen)
    obtain ⟨left, right, hsplit⟩ := List.append_of_mem hmem
    rw [hsplit, allWork_replace]
    exact Nat.add_pos_left hsome _
  rw [value_pollGroup, Round.outcome]
  split
  · exact hpositive
  · rename_i hfailure hresults
    rw [work]
    cases hwide : isWide children with
    | false =>
        rw [pollChildren, hwide, if_neg Bool.false_ne_true] at hfailure ⊢
        rw [(surveyed_pollAll hfailure).children_eq]
        exact allWork_map_lt (fun child => (hsteps child).work_le) hmem
          (hless child hmem hopen)
    | true =>
        -- The first child of the queue is polled as it was; what follows are steps.
        obtain ⟨-, hqueue⟩ := hready.queue hwide
        obtain ⟨position, rest, rfl⟩ :=
          List.exists_cons_of_ne_nil (List.ne_nil_of_mem
            ((hqueue first).mpr ⟨child, hchild, hopen⟩))
        obtain ⟨head, hhead, hwaits⟩ := (hqueue position).mp List.mem_cons_self
        have hcount : 0 < children.countP (!·.isFinished) :=
          List.countP_pos_iff.mpr ⟨child, hmem, by rw [hopen]; rfl⟩
        obtain ⟨unfinished, hunfinished⟩ :=
          Nat.exists_eq_add_one_of_ne_zero (Nat.ne_of_gt hcount)
        obtain ⟨effects, hafter⟩ := @steps_pollQueue_first _ _ hsteps op unfinished
          { children, queue := position :: rest } position rest head rfl hhead
        have hstep := hless head (List.mem_of_getElem? hhead) hwaits
        rw [pollChildren, if_pos hwide, hunfinished]
        apply Nat.lt_of_le_of_lt hafter.work_le
        obtain ⟨left, right, hsplit, hset⟩ := exists_split_of_child hhead
        rw [work, hset, hsplit, allWork_replace, allWork_replace]
        exact Nat.add_lt_add_right hstep _
  · exact hpositive

end Groups

/-! ## Polls and runs -/

/-- A poll of an execution that is not done does some of its work. -/
theorem work_poll_lt (answer : Answer) (resumption : Resumption) {depth : Nat}
    {execution : Execution} (hlow : execution.height ≤ depth) :
    Ready execution → execution.isFinished = false →
      (poll answer resumption depth execution).value.execution.work <
        execution.work := by
  induction hlow using height_induct with
  | direct depth filter sort level =>
      intro _ _
      rw [poll_direct]
      cases answer (.ofSort filter sort) with
      | refused error => exact Nat.zero_lt_two
      | sent reply => exact Nat.one_lt_two
  | waiting depth reply =>
      intro _ _
      rw [poll_waiting]
      cases reply <;> exact Nat.zero_lt_one
  | finished depth result =>
      intro _ hopen
      cases hopen
  | merge depth op level plans _ hplans ih =>
      intro hready _
      have hsplit : Ready (.joining op (plans.map .planned) (firstQueue plans)) := by
        cases hready with
        | planned hplan _ => exact live_split hplan _
      rw [poll_merge, work, Plan.remoteCalls, ← allWork_planned]
      exact work_pollGroup_lt (steps_poll answer resumption depth)
        (fun child hmem => ih child (hplans child hmem)) hsplit
  | joining depth op children queue _ hchildren ih =>
      intro hready _
      rw [poll_joining, work]
      exact work_pollGroup_lt (steps_poll answer resumption depth)
        (fun child hmem => ih child (hchildren child hmem)) hready

/-- A run with more polls than there is work comes to its end. -/
theorem steps_run_finished (answer : Answer) (resumption : Resumption) {depth : Nat}
    {polls : Nat} {execution : Execution} (hready : Ready execution)
    (hlow : execution.height ≤ depth) (hpolls : execution.work < polls) :
    Steps answer execution (run answer resumption depth polls execution).effects
      (.finished (run answer resumption depth polls execution).value) := by
  induction polls generalizing execution with
  | zero => exact absurd hpolls (Nat.not_lt_zero _)
  | succ polls ih =>
      have hpoll := steps_poll answer resumption depth execution
      have hresume := steps_resume answer (poll answer resumption depth execution).value
      have hready' := @Ready.resume_poll answer resumption depth execution hready hlow
      rw [run]
      simp only [Traced.value_bind, Traced.effects_bind]
      split
      · rename_i result hresult
        rw [hresult] at hpoll
        simpa using hpoll
      · rename_i hgoes
        have hopen : execution.isFinished = false := by
          cases hdone : execution.isFinished with
          | false => rfl
          | true =>
              obtain ⟨result, rfl⟩ := exists_result_of_isFinished hdone
              rw [poll_finished] at hgoes
              exact absurd rfl (hgoes result)
        have hless := work_poll_lt answer resumption hlow hready hopen
        have hrest := ih hready'
          (Nat.le_trans hresume.height_le (Nat.le_trans hpoll.height_le hlow))
          (by have := hresume.work_le; omega)
        have hlater := hresume.trans hrest
        rw [Effects.empty_append] at hlater
        exact hpoll.trans hlater

end Execution

namespace Plan

open Execution

variable {answer : Answer} {resumption : Resumption} {plan : Plan}

/-- Executing a plan whose merge steps have children comes to its end. -/
theorem steps_execute (hplan : plan.Branching) (answer : Answer)
    (resumption : Resumption) :
    Steps answer (.planned plan) (plan.execute answer resumption).effects
      (.finished (plan.execute answer resumption).value) := by
  have hready : Ready (.planned plan) := .planned hplan (Or.inl trivial)
  exact steps_run_finished answer resumption hready (Nat.le_refl _) (Nat.lt_succ_self _)

/-- Whatever the schedule, a plan succeeds if its evaluation does, and with the
same records. -/
theorem execute_eq_ok_iff (hplan : plan.Branching) (records : List Record) :
    (plan.execute answer resumption).value = .ok records ↔
      plan.evaluate answer = .ok records :=
  ((steps_execute hplan answer resumption).evaluate_eq_ok_iff records).symm

/-- The failure of a plan is that of one of its queries. -/
theorem exists_query_of_execute_eq_error (hplan : plan.Branching)
    {error : RemoteError}
    (hfailed : (plan.execute answer resumption).value = .error error) :
    ∃ query ∈ plan.queries, answer.failure? query = some error := by
  have hsubset := (steps_execute hplan answer resumption).failures_subset
  rw [hfailed] at hsubset
  exact List.mem_filterMap.mp (hsubset List.mem_cons_self)

/-- The failure of a plan is that of a query that was sent. -/
theorem exists_sent_of_execute_eq_error (hplan : plan.Branching) {error : RemoteError}
    (hfailed : (plan.execute answer resumption).value = .error error) :
    ∃ query ∈ (plan.execute answer resumption).effects.sent,
      answer.failure? query = some error := by
  have hsteps := steps_execute hplan answer resumption
  rw [hfailed] at hsteps
  exact (hsteps.exists_sent_of_arrived (List.mem_singleton_self _)).resolve_left
    List.not_mem_nil

/-- A plan sends none but its own queries, and none of them twice. -/
theorem sent_execute_subperm (plan : Plan) (answer : Answer)
    (resumption : Resumption) :
    (plan.execute answer resumption).effects.sent.Subperm plan.queries := by
  obtain ⟨last, hsteps⟩ := steps_run answer resumption plan.depth
    (2 * plan.remoteCalls + 1) (.planned plan)
  exact hsteps.sent_subperm

/-- A plan that succeeds sends each of its queries once. -/
theorem sent_execute_perm (hplan : plan.Branching) {records : List Record}
    (hdone : (plan.execute answer resumption).value = .ok records) :
    (plan.execute answer resumption).effects.sent.Perm plan.queries := by
  have hsteps := steps_execute hplan answer resumption
  rw [hdone] at hsteps
  exact hsteps.sent_perm

/-- The first poll of a plan sends none but its own queries. -/
theorem sent_launch_subperm (plan : Plan) (answer : Answer)
    (resumption : Resumption) :
    (plan.launch answer resumption).effects.sent.Subperm plan.queries := by
  have hsteps := steps_poll answer resumption plan.depth (.planned plan)
  rw [launch, Traced.effects_bind, Traced.effects_pure, Effects.append_empty]
  exact hsteps.sent_subperm

end Plan

end NestedQuery
