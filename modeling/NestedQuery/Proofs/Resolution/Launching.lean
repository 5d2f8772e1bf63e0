import NestedQuery.Proofs.Resolution.Settling
import NestedQuery.Proofs.Resolution.Transcript

/-!
# Plans that are executed in order

The first poll of a plan sends its queries from left to right, unless a wide
group gives way before it has come to its last child.  That takes two children
that ask to be polled again at once, as every wide group does.  A plan in which
no wide group has two such children is executed by two polls: the first sends
every query, the second takes the answers.  Its outcome is that of its
evaluation, failures included.
-/

namespace NestedQuery

namespace Plan

mutual

/-- Whether the first poll of a plan asks for another one at once: a wide group
has used up its polls, and a query waits as the client does. -/
def asksAtOnce (resumption : Resumption) : Plan → Bool
  | .direct _ _ _ => resumption = .duringPoll
  | .merge _ _ children =>
      Execution.isWide children || someAsksAtOnce resumption children

def someAsksAtOnce (resumption : Resumption) : List Plan → Bool
  | [] => false
  | plan :: plans => plan.asksAtOnce resumption || someAsksAtOnce resumption plans

end

theorem asksAtOnce_merge (resumption : Resumption) (op : BoolOp) (level : Nat)
    (children : List Plan) :
    (merge op level children).asksAtOnce resumption =
      (Execution.isWide children || children.any (asksAtOnce resumption)) := by
  have hsome : someAsksAtOnce resumption children =
      children.any (asksAtOnce resumption) := by
    induction children with
    | nil => rfl
    | cons child children ih => rw [someAsksAtOnce, ih, List.any_cons]
  rw [asksAtOnce, hsome]

/-- No wide group has two children that ask for another poll at once. -/
inductive Orderly (resumption : Resumption) : Plan → Prop
  | direct (filter : Option Filter) (sort : Option ResolvedSort) (level : Nat) :
      Orderly resumption (.direct filter sort level)
  | merge {op : BoolOp} {level : Nat} {children : List Plan}
      (hchildren : ∀ child ∈ children, Orderly resumption child)
      (hasks : Execution.isWide children = true →
        children.countP (asksAtOnce resumption) ≤ 1) :
      Orderly resumption (.merge op level children)

end Plan

namespace Execution

/-- What the first poll of a plan does if it comes to all parts of it. -/
structure Opens (answer : Answer) (resumption : Resumption) (plan : Plan)
    (first : Traced Polled) : Prop where
  launched : first.value.execution.Launched
  waits : first.value.execution.isFinished = false
  evaluate_eq : first.value.execution.evaluate answer = plan.evaluate answer
  effects_eq : first.effects = plan.opening
  again_eq : first.value.again = plan.asksAtOnce resumption

section Groups

variable {answer : Answer} {resumption : Resumption}
variable {poll : Execution → Traced Polled} {plans : List Plan}

/-- What polling the children of a group for the first time comes to. -/
structure Opened (resumption : Resumption) (poll : Execution → Traced Polled)
    (plans : List Plan) (round : Traced Round) : Prop where
  failure : round.value.failure = none
  children_eq : round.value.children =
    plans.map fun plan => (poll (.planned plan)).value.execution
  again_eq : round.value.again =
    (isWide plans || plans.any (Plan.asksAtOnce resumption))
  effects_eq : round.effects = .concat (plans.map Plan.opening)

theorem failure_pollAll_of_waiting {children : List Execution}
    (hwaits : ∀ child ∈ children, (poll child).value.execution.isFinished = false)
    (position : Nat) :
    (pollAll poll position children).value.failure = none ∧
      (pollAll poll position children).effects =
        .concat (children.map fun child => (poll child).effects) := by
  induction children generalizing position with
  | nil => exact ⟨rfl, rfl⟩
  | cons child rest ih =>
      obtain ⟨hchild, hrest⟩ := List.forall_mem_cons.mp hwaits
      obtain ⟨hfailure, heffects⟩ := ih hrest (position + 1)
      rw [pollAll]
      simp only [Traced.value_bind, Traced.effects_bind, List.map_cons,
        Effects.concat_cons]
      split
      · rename_i hended
        rw [hended] at hchild
        cases hchild
      · refine ⟨hfailure, congrArg _ ?_⟩
        rw [Traced.effects_bind, Traced.effects_pure, Effects.append_empty, heffects]

theorem opened_pollAll
    (hopens : ∀ plan ∈ plans, Opens answer resumption plan (poll (.planned plan)))
    (hnarrow : isWide plans = false) :
    Opened resumption poll plans (pollAll poll 0 (plans.map planned)) := by
  have hwaits : ∀ child ∈ plans.map planned,
      (poll child).value.execution.isFinished = false := by
    intro child hmem
    obtain ⟨plan, hplan, rfl⟩ := List.mem_map.mp hmem
    exact (hopens plan hplan).waits
  obtain ⟨hfailure, heffects⟩ := failure_pollAll_of_waiting hwaits 0
  have hsurvey := surveyed_pollAll hfailure
  refine ⟨hfailure, ?_, ?_, ?_⟩
  · rw [hsurvey.children_eq, List.map_map]
    rfl
  · rw [hsurvey.again_eq, hnarrow, List.any_map, Bool.false_or, Bool.eq_iff_iff,
      List.any_eq_true, List.any_eq_true]
    apply exists_congr
    intro plan
    apply and_congr_right
    intro hplan
    rw [Function.comp_apply, (hopens plan hplan).again_eq]
  · rw [heffects, List.map_map]
    exact congrArg _ (List.map_congr_left fun plan hplan => (hopens plan hplan).effects_eq)

/-- Some children of a wide group have been polled, the others stand in the queue,
before those that have come back to it. -/
structure Entered (left : List Execution) (plans : List Plan) (round : Round) : Prop where
  children_eq : round.children = left ++ plans.map planned
  queue_eq : ∃ requeued,
    round.queue = List.range' left.length plans.length ++ requeued

/-- The first child of the queue has not been polled before. -/
theorem Entered.turn {left : List Execution} {plan : Plan} {rest : List Plan}
    {round : Round} (hround : Entered left (plan :: rest) round) (polled : Polled) :
    ∃ queue, round.queue = left.length :: queue ∧
      round.children[left.length]? = some (.planned plan) ∧
      Entered (left ++ [polled.execution]) rest
        (round.replace left.length queue polled) := by
  obtain ⟨hchildren, requeued, hqueue⟩ := hround
  refine ⟨List.range' (left.length + 1) rest.length ++ requeued, ?_, ?_, ?_, ?_⟩
  · rw [hqueue, List.length_cons, List.range'_succ, List.cons_append]
  · rw [hchildren, List.getElem?_append_right (Nat.le_refl _), Nat.sub_self]
    rfl
  · rw [Round.replace_children, hchildren, List.set_append_right _ _ (Nat.le_refl _),
      Nat.sub_self, List.map_cons, List.set_cons_zero, List.append_assoc]
    rfl
  · rw [Round.replace, List.length_append]
    dsimp only
    split
    · rw [List.append_assoc]
      exact ⟨_, rfl⟩
    · exact ⟨_, rfl⟩

theorem Entered.waits {left : List Execution} {round : Round}
    (hround : Entered left plans round)
    (hleft : ∀ child ∈ left, child.isFinished = false) :
    ∀ child ∈ round.children, child.isFinished = false := by
  rw [hround.children_eq, List.forall_mem_append]
  exact ⟨hleft, List.forall_mem_map.mpr fun plan _ => rfl⟩

theorem Entered.length_eq {left : List Execution} {round : Round}
    (hround : Entered left plans round) :
    round.children.length = left.length + plans.length := by
  rw [hround.children_eq, List.length_append, List.length_map]

/-- A wide group comes to its last child if at most one of them asks for another
poll at once, and then it has used up its polls. -/
theorem pollUntilDone_of_waiting (left : List Execution)
    (hopens : ∀ plan ∈ plans, Opens answer resumption plan (poll (.planned plan)))
    {round : Round} {patience : Nat} (hround : Entered left plans round)
    (hpatience : plans.countP (Plan.asksAtOnce resumption) < patience) :
    ∃ later, (pollUntilDone poll plans.length patience round).value = (false, later) ∧
      later.children =
        left ++ plans.map (fun plan => (poll (.planned plan)).value.execution) ∧
      later.again = true ∧
      (pollUntilDone poll plans.length patience round).effects =
        .concat (plans.map Plan.opening) := by
  induction plans generalizing left round patience with
  | nil =>
      refine ⟨{ round with again := true }, ?_, hround.children_eq, rfl, ?_⟩ <;>
        cases patience <;> rfl
  | cons plan rest ih =>
      obtain ⟨hplan, hrest⟩ := List.forall_mem_cons.mp hopens
      obtain ⟨patience, rfl⟩ :=
        Nat.exists_eq_add_one_of_ne_zero (Nat.ne_zero_of_lt hpatience)
      obtain ⟨queue, hhead, hchild, hnext⟩ := hround.turn (poll (.planned plan)).value
      have hleft : rest.countP (Plan.asksAtOnce resumption) <
          if (poll (.planned plan)).value.again then patience else patience + 1 := by
        rw [hplan.again_eq]
        rw [List.countP_cons] at hpatience
        split
        · rename_i hasks
          rw [if_pos hasks] at hpatience
          omega
        · omega
      obtain ⟨later, hvalue, hlater, hagain, heffects⟩ := ih _ hrest hnext hleft
      refine ⟨later, ?_, ?_, hagain, ?_⟩
      · simp only [List.length_cons, pollUntilDone, hhead, hchild, Traced.value_bind,
          hplan.waits]
        exact hvalue
      · rw [hlater, List.map_cons, List.append_assoc]
        rfl
      · simp only [List.length_cons, pollUntilDone, hhead, hchild, Traced.effects_bind,
          hplan.waits, hplan.effects_eq, List.map_cons, Effects.concat_cons]
        exact congrArg _ heffects

/-- A wide group that gives way, or waits, has done what its queue has done. -/
theorem pollQueue_of_not_done {unfinished : Nat} {round later : Round}
    (hvalue : (pollUntilDone poll (unfinished + 1) 2 round).value = (false, later)) :
    (pollQueue poll (unfinished + 1) round).value = later ∧
      (pollQueue poll (unfinished + 1) round).effects =
        (pollUntilDone poll (unfinished + 1) 2 round).effects := by
  rw [pollQueue]
  simp only [Traced.value_bind, Traced.effects_bind, hvalue, Bool.false_eq_true,
    if_false, Traced.value_pure, Traced.effects_pure]
  exact ⟨trivial, Effects.append_empty _⟩

/-- A wide group before it polls a child for the first time. -/
def firstRound (plans : List Plan) : Round :=
  { children := plans.map planned, queue := List.range plans.length }

theorem entered_firstRound (plans : List Plan) :
    Entered [] plans (firstRound plans) :=
  ⟨rfl, [], List.range_eq_range'.trans (List.append_nil _).symm⟩

theorem unfinished_firstRound (plans : List Plan) :
    (firstRound plans).unfinished = plans.length := by
  rw [Round.unfinished, firstRound, List.countP_map, List.countP_eq_length]
  exact fun plan _ => rfl

theorem opened_pollQueue
    (hopens : ∀ plan ∈ plans, Opens answer resumption plan (poll (.planned plan)))
    (hwide : isWide plans = true)
    (hasks : plans.countP (Plan.asksAtOnce resumption) ≤ 1) :
    Opened resumption poll plans
      (pollQueue poll (firstRound plans).unfinished (firstRound plans)) := by
  obtain ⟨later, hvalue, hchildren, hagain, heffects⟩ :=
    pollUntilDone_of_waiting [] hopens (entered_firstRound plans)
      (Nat.lt_succ_of_le hasks)
  have hfailure := failure_pollUntilDone poll plans.length 2 (firstRound plans)
  obtain ⟨unfinished, hlength⟩ : ∃ unfinished, plans.length = unfinished + 1 := by
    cases plans with
    | nil => cases hwide
    | cons plan rest => exact ⟨rest.length, rfl⟩
  rw [hlength] at hvalue hfailure heffects
  rw [hvalue] at hfailure
  rw [unfinished_firstRound, hlength]
  obtain ⟨hlater, hsame⟩ := pollQueue_of_not_done hvalue
  constructor
  · rw [hlater]
    exact hfailure
  · rw [hlater]
    exact hchildren
  · rw [hlater, hagain, hwide, Bool.true_or]
  · rw [hsame, heffects]

/-- A group whose children open opens, whatever its width. -/
theorem opens_pollGroup {op : BoolOp} {level : Nat}
    (hopens : ∀ plan ∈ plans, Opens answer resumption plan (poll (.planned plan)))
    (hne : plans ≠ [])
    (hasks : isWide plans = true → plans.countP (Plan.asksAtOnce resumption) ≤ 1) :
    Opens answer resumption (.merge op level plans)
      ⟨(pollGroup poll op (plans.map planned) (firstQueue plans)).value,
        splitting op level plans ++
          (pollGroup poll op (plans.map planned) (firstQueue plans)).effects⟩ := by
  have hopened : Opened resumption poll plans
      (pollChildren poll (plans.map planned) (firstQueue plans)) := by
    rw [pollChildren, isWide_map, firstQueue]
    cases hwide : isWide plans with
    | false => exact opened_pollAll hopens hwide
    | true => exact opened_pollQueue hopens hwide (hasks hwide)
  have hresults : results? (plans.map fun plan =>
      (poll (.planned plan)).value.execution) = none := by
    obtain ⟨first, rest, rfl⟩ := List.exists_cons_of_ne_nil hne
    exact results?_cons_of_unfinished (hopens first List.mem_cons_self).waits _
  have hvalue := value_pollGroup poll op (plans.map planned) (firstQueue plans)
  have heffects := effects_pollGroup poll op (plans.map planned) (firstQueue plans)
  generalize pollChildren poll (plans.map planned) (firstQueue plans) = round at *
  simp only [Round.outcome, Round.closing, hopened.failure, hopened.children_eq,
    hresults] at hvalue heffects
  constructor
  · rw [hvalue]
    apply Launched.joining
    intro child hmem
    obtain ⟨plan, hplan, rfl⟩ := List.mem_map.mp hmem
    exact (hopens plan hplan).launched
  · rw [hvalue]
    rfl
  · rw [hvalue, evaluate_joining, Plan.evaluate_merge, List.map_map]
    have heach : plans.map (evaluate answer ∘ fun plan =>
        (poll (.planned plan)).value.execution) = plans.map (Plan.evaluate answer) :=
      List.map_congr_left fun plan hplan => (hopens plan hplan).evaluate_eq
    rw [heach]
  · rw [heffects, Effects.append_empty, hopened.effects_eq, Plan.opening_merge]
  · rw [hvalue, hopened.again_eq, Plan.asksAtOnce_merge]

end Groups

/-- The first poll of an orderly plan comes to all parts of it. -/
theorem opens_poll {answer : Answer} {resumption : Resumption} {depth : Nat}
    {plan : Plan} (hdepth : plan.depth ≤ depth) (hbranching : plan.Branching)
    (horderly : plan.Orderly resumption)
    (hsends : ∀ query ∈ plan.queries, ∃ reply, answer query = .sent reply) :
    Opens answer resumption plan (poll answer resumption depth (.planned plan)) := by
  induction horderly generalizing depth with
  | direct filter sort level =>
      obtain ⟨reply, hreply⟩ := hsends _ (List.mem_singleton_self _)
      rw [poll_direct, hreply]
      refine ⟨.waiting reply, rfl, ?_, Effects.append_empty _, rfl⟩
      rw [Plan.evaluate, hreply]
      rfl
  | merge hchildren hasks ih =>
      rename_i op level plans
      cases depth with
      | zero => exact absurd hdepth (Nat.not_succ_le_zero _)
      | succ depth =>
          cases hbranching with
          | merge hne hbranching =>
              have hlow := Plan.allDepth_le_iff.mp (Nat.le_of_succ_le_succ hdepth)
              have hopens : ∀ plan ∈ plans, Opens answer resumption plan
                  (poll answer resumption depth (.planned plan)) := by
                intro plan hplan
                exact ih plan hplan (hlow plan hplan) (hbranching plan hplan)
                  fun query hquery => hsends query (Plan.mem_queries_merge hplan hquery)
              rw [poll_merge]
              exact opens_pollGroup hopens hne hasks

end Execution

namespace Plan

open Execution

/-- The first poll of an orderly plan does its opening. -/
theorem launch_of_orderly {answer : Answer} {resumption : Resumption} {plan : Plan}
    (hbranching : plan.Branching) (horderly : plan.Orderly resumption)
    (hsends : ∀ query ∈ plan.queries, ∃ reply, answer query = .sent reply) :
    (plan.launch answer resumption).effects = plan.opening := by
  have hopens := opens_poll (Nat.le_refl plan.depth) hbranching horderly hsends
  rw [launch, Traced.effects_bind, Traced.effects_pure, Effects.append_empty,
    hopens.effects_eq]

/-- An orderly plan none of whose queries is refused is opened by its first poll,
and comes to its evaluation without sending anything more. -/
theorem execute_opens_of_orderly {answer : Answer} {resumption : Resumption}
    {plan : Plan} (hbranching : plan.Branching) (horderly : plan.Orderly resumption)
    (hsends : ∀ query ∈ plan.queries, ∃ reply, answer query = .sent reply) :
    (plan.execute answer resumption).value = plan.evaluate answer ∧
      ∃ later : Effects, later.sent = [] ∧
        (plan.execute answer resumption).effects = plan.opening ++ later := by
  have hready : Ready (.planned plan) := .planned hbranching (Or.inl trivial)
  have hlow : (planned plan).height ≤ plan.depth := Nat.le_refl _
  have hopens := opens_poll (Nat.le_refl plan.depth) hbranching horderly hsends
  have hless := work_poll_lt answer resumption hlow hready rfl
  obtain ⟨polls, hpolls⟩ : ∃ polls, 2 * plan.remoteCalls = polls + 1 :=
    Nat.exists_eq_add_one_of_ne_zero (Nat.ne_zero_of_lt hless)
  have hpoll := steps_poll answer resumption plan.depth (.planned plan)
  have hresume := steps_resume answer
    (poll answer resumption plan.depth (.planned plan)).value
  obtain ⟨hvalue, hsent⟩ := run_of_launched answer resumption polls
    hopens.launched.resume (hready.resume_poll hlow)
    (Nat.le_trans hresume.height_le (Nat.le_trans hpoll.height_le hlow))
  have hwaits := hopens.waits
  rw [Plan.execute, hpolls, run]
  simp only [Traced.value_bind, Traced.effects_bind, hopens.effects_eq]
  split
  · rename_i hended
    rw [hended] at hwaits
    cases hwaits
  · rw [hvalue, evaluate_resume, hopens.evaluate_eq]
    exact ⟨rfl, _, hsent, rfl⟩

/-- An orderly plan none of whose queries is refused is executed in order. -/
theorem execute_of_orderly {answer : Answer} {resumption : Resumption} {plan : Plan}
    (hbranching : plan.Branching) (horderly : plan.Orderly resumption)
    (hsends : ∀ query ∈ plan.queries, ∃ reply, answer query = .sent reply) :
    (plan.execute answer resumption).value = plan.evaluate answer ∧
      (plan.execute answer resumption).effects.sent = plan.queries := by
  obtain ⟨hvalue, later, hsilent, heffects⟩ :=
    execute_opens_of_orderly hbranching horderly hsends
  refine ⟨hvalue, ?_⟩
  rw [heffects, Effects.sent_append, sent_opening, hsilent, List.append_nil]

end Plan

end NestedQuery
