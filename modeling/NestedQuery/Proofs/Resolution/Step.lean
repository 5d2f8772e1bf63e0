import NestedQuery.Proofs.Traced
import NestedQuery.Resolution.Execution

/-!
# Steps of an execution

What an execution can do, one step at a time and without a schedule: a direct
step is sent or refused and its answer is received, a merge step is split, a
child of a group takes a step, and a group is merged when all children have
records or aborted when some child has failed.  The order in which the children
of a group take their steps is left open, and so is its queue.

Every poll is a sequence of such steps, whatever the width of the groups and
the way of waking, and so is a whole run.  What the steps keep is therefore kept
by every schedule.
-/

namespace NestedQuery

namespace Execution

/-! ## Effects of single steps -/

def sending (filter : Option Filter) (sort : Option ResolvedSort) (level : Nat) :
    Effects :=
  { sent := [.ofSort filter sort]
    counted := { remoteCalls := 1 }
    logged := [Log.Event.remoteQuery.trace
      [("filtered", toString filter.isSome), ("sorted", toString sort.isSome),
        ("nesting_level", toString level)]] }

def failing (error : RemoteError) : Effects :=
  { counted := { remoteFailures := 1 }
    logged := [⟨.error, Log.Event.remoteQueryFailed.name,
      [("code", error.code), ("reason", error.message)]⟩] }

def splitting (op : BoolOp) (level : Nat) (plans : List Plan) : Effects :=
  { counted := { decompositions := 1 }
    logged := [Log.Event.decompositionSplit.trace
      [("op", op.key), ("children", toString plans.length),
        ("nesting_level", toString level)]] }

def merging (op : BoolOp) (merged : List Record) : Effects :=
  { logged := [Log.Event.mergeComplete.trace
      [("op", op.key), ("records", toString merged.length)]] }

/-- One step of an execution and its effects. -/
inductive Step (answer : Answer) : Execution → Effects → Execution → Prop
  | send {filter : Option Filter} {sort : Option ResolvedSort} {level : Nat}
      {reply : Except RemoteError Page}
      (hanswer : answer (.ofSort filter sort) = .sent reply) :
      Step answer (.planned (.direct filter sort level))
        (sending filter sort level) (.waiting reply)
  | refuse {filter : Option Filter} {sort : Option ResolvedSort} {level : Nat}
      {error : RemoteError}
      (hanswer : answer (.ofSort filter sort) = .refused error) :
      Step answer (.planned (.direct filter sort level))
        (sending filter sort level ++ failing error) (.finished (.error error))
  | receive (page : Page) :
      Step answer (.waiting (.ok page)) {} (.finished (.ok page.records))
  | fail (error : RemoteError) :
      Step answer (.waiting (.error error)) (failing error)
        (.finished (.error error))
  | split (op : BoolOp) (level : Nat) (plans : List Plan) (queue : List Nat) :
      Step answer (.planned (.merge op level plans)) (splitting op level plans)
        (.joining op (plans.map .planned) queue)
  | child {op : BoolOp} {left right : List Execution} {queue : List Nat}
      {before after : Execution} {effects : Effects}
      (hstep : Step answer before effects after) :
      Step answer (.joining op (left ++ before :: right) queue) effects
        (.joining op (left ++ after :: right) queue)
  | requeue (op : BoolOp) (children : List Execution) (queue other : List Nat) :
      Step answer (.joining op children queue) {} (.joining op children other)
  | merge {op : BoolOp} {children : List Execution} {queue : List Nat}
      {lists : List (List Record)} (hresults : results? children = some lists) :
      Step answer (.joining op children queue)
        (merging op (NestedQuery.merge op lists))
        (.finished (.ok (NestedQuery.merge op lists)))
  | abort {op : BoolOp} {children : List Execution} {queue : List Nat}
      {error : RemoteError} (hmem : .finished (.error error) ∈ children) :
      Step answer (.joining op children queue) {} (.finished (.error error))

/-- The children before and after a position, which stay as they are when the child
at the position changes. -/
theorem exists_split_of_child {children : List Execution} {position : Nat}
    {before : Execution} (hchild : children[position]? = some before) :
    ∃ left right, children = left ++ before :: right ∧
      ∀ after, children.set position after = left ++ after :: right := by
  obtain ⟨hlt, rfl⟩ := List.getElem?_eq_some_iff.mp hchild
  refine ⟨children.take position, children.drop (position + 1), ?_, ?_⟩
  · rw [List.getElem_cons_drop, List.take_append_drop]
  · intro after
    rw [List.set_eq_take_append_cons_drop, if_pos hlt]

/-- Any number of steps and their effects in order. -/
inductive Steps (answer : Answer) : Execution → Effects → Execution → Prop
  | refl (execution : Execution) : Steps answer execution {} execution
  | head {before middle after : Execution} {first rest : Effects}
      (hstep : Step answer before first middle)
      (hsteps : Steps answer middle rest after) :
      Steps answer before (first ++ rest) after

namespace Steps

variable {answer : Answer}

theorem single {before after : Execution} {effects : Effects}
    (hstep : Step answer before effects after) :
    Steps answer before effects after := by
  have hsteps := Steps.head hstep (.refl after)
  rwa [Effects.append_empty] at hsteps

theorem trans {before middle after : Execution} {first second : Effects}
    (hfirst : Steps answer before first middle)
    (hsecond : Steps answer middle second after) :
    Steps answer before (first ++ second) after := by
  induction hfirst with
  | refl execution => rwa [Effects.empty_append]
  | head hstep _ ih =>
      rw [Effects.append_assoc]
      exact .head hstep (ih hsecond)

theorem child {before after : Execution} {effects : Effects}
    (hsteps : Steps answer before effects after) (op : BoolOp)
    (left right : List Execution) (queue : List Nat) :
    Steps answer (.joining op (left ++ before :: right) queue) effects
      (.joining op (left ++ after :: right) queue) := by
  induction hsteps with
  | refl execution => exact .refl _
  | head hstep _ ih => exact .head (.child hstep) ih

/-- Steps of the child at a position are steps of the group. -/
theorem childAt {children : List Execution} {position : Nat}
    {before after : Execution} {effects : Effects}
    (hchild : children[position]? = some before)
    (hsteps : Steps answer before effects after) (op : BoolOp) (queue : List Nat) :
    Steps answer (.joining op children queue) effects
      (.joining op (children.set position after) queue) := by
  obtain ⟨left, right, rfl, hset⟩ := exists_split_of_child hchild
  rw [hset]
  exact hsteps.child op left right queue

end Steps

/-! ## Polls of groups -/

section Polling

variable {answer : Answer} {poll : Execution → Traced Polled}

@[simp]
theorem Round.replace_children (round : Round) (position : Nat)
    (queue : List Nat) (polled : Polled) :
    (round.replace position queue polled).children =
      round.children.set position polled.execution := rfl

@[simp]
theorem Round.replace_failure (round : Round) (position : Nat)
    (queue : List Nat) (polled : Polled) :
    (round.replace position queue polled).failure = round.failure := rfl

theorem mem_of_leadingFailure? {children : List Execution} {error : RemoteError}
    (hfailure : leadingFailure? children = some error) :
    .finished (.error error) ∈ children := by
  induction children with
  | nil => cases hfailure
  | cons child children ih =>
      cases child with
      | finished result =>
          cases result with
          | ok records => exact List.mem_cons_of_mem _ (ih hfailure)
          | error other =>
              cases hfailure
              exact List.mem_cons_self
      | planned plan => cases hfailure
      | waiting reply => cases hfailure
      | joining op children queue => cases hfailure

/-- A poll of all children is a sequence of steps of the group. -/
theorem steps_pollAll
    (hpoll : ∀ child, Steps answer child (poll child).effects
      (poll child).value.execution)
    (op : BoolOp) (queue : List Nat) (left children : List Execution)
    (position : Nat) :
    Steps answer (.joining op (left ++ children) queue)
      (pollAll poll position children).effects
      (.joining op (left ++ (pollAll poll position children).value.children)
        queue) := by
  induction children generalizing left position with
  | nil => exact .refl _
  | cons child rest ih =>
      have hchild := (hpoll child).child op left rest queue
      rw [pollAll]
      simp only [Traced.value_bind, Traced.effects_bind]
      split
      · simpa using hchild
      · have hrest := ih (left ++ [(poll child).value.execution]) (position + 1)
        rw [List.append_assoc, List.append_assoc] at hrest
        simpa using hchild.trans hrest

theorem failure_mem_pollAll {position : Nat} {children : List Execution}
    {error : RemoteError}
    (hfailure : (pollAll poll position children).value.failure = some error) :
    .finished (.error error) ∈ (pollAll poll position children).value.children := by
  induction children generalizing position with
  | nil => cases hfailure
  | cons child rest ih =>
      rw [pollAll] at hfailure ⊢
      simp only [Traced.value_bind] at hfailure ⊢
      split at hfailure
      · rename_i other hother
        simp only [hother] at hfailure ⊢
        cases hfailure
        exact List.mem_cons_self
      · exact List.mem_cons_of_mem _ (ih hfailure)

/-- A poll of queued children is a sequence of steps of the group. -/
theorem steps_pollUntilDone
    (hpoll : ∀ child, Steps answer child (poll child).effects
      (poll child).value.execution)
    (op : BoolOp) (queue : List Nat) (polls patience : Nat) (round : Round) :
    Steps answer (.joining op round.children queue)
      (pollUntilDone poll polls patience round).effects
      (.joining op (pollUntilDone poll polls patience round).value.2.children
        queue) := by
  induction polls generalizing patience round with
  | zero => exact .refl _
  | succ polls ih =>
      cases patience with
      | zero => exact .refl _
      | succ patience =>
          rw [pollUntilDone]
          split
          · exact .refl _
          · rename_i position rest hqueue
            split
            · exact .refl _
            · rename_i child hchild
              have hset := (hpoll child).childAt hchild op queue
              simp only [Traced.value_bind, Traced.effects_bind]
              split
              · simpa using hset
              · have hrest := ih (if (poll child).value.again then patience
                  else patience + 1) (round.replace position rest (poll child).value)
                rw [Round.replace_children] at hrest
                exact hset.trans hrest

theorem steps_pollQueue
    (hpoll : ∀ child, Steps answer child (poll child).effects
      (poll child).value.execution)
    (op : BoolOp) (queue : List Nat) (unfinished : Nat) (round : Round) :
    Steps answer (.joining op round.children queue)
      (pollQueue poll unfinished round).effects
      (.joining op (pollQueue poll unfinished round).value.children queue) := by
  induction unfinished generalizing round with
  | zero => exact .refl _
  | succ unfinished ih =>
      have hround := steps_pollUntilDone hpoll op queue (unfinished + 1) 2 round
      rw [pollQueue]
      simp only [Traced.value_bind, Traced.effects_bind]
      split
      · split
        · simpa using hround
        · exact hround.trans (ih _)
      · simpa using hround

theorem failure_pollUntilDone (poll : Execution → Traced Polled)
    (polls patience : Nat) (round : Round) :
    (pollUntilDone poll polls patience round).value.2.failure = round.failure := by
  induction polls generalizing patience round with
  | zero => rfl
  | succ polls ih =>
      cases patience with
      | zero => rfl
      | succ patience =>
          rw [pollUntilDone]
          split
          · rfl
          · split
            · rfl
            · simp only [Traced.value_bind]
              split
              · rfl
              · rw [ih, Round.replace_failure]

theorem failure_mem_pollQueue {unfinished : Nat} {round : Round}
    {error : RemoteError} (hround : round.failure = none)
    (hfailure : (pollQueue poll unfinished round).value.failure = some error) :
    .finished (.error error) ∈ (pollQueue poll unfinished round).value.children := by
  induction unfinished generalizing round with
  | zero =>
      rw [pollQueue, Traced.value_pure, hround] at hfailure
      cases hfailure
  | succ unfinished ih =>
      have hkept := failure_pollUntilDone poll (unfinished + 1) 2 round
      rw [pollQueue] at hfailure ⊢
      generalize pollUntilDone poll (unfinished + 1) 2 round = polled at *
      obtain ⟨⟨done, later⟩, effects⟩ := polled
      change later.failure = round.failure at hkept
      rw [hround] at hkept
      simp only [Traced.value_bind] at hfailure ⊢
      cases done with
      | false =>
          rw [if_neg Bool.false_ne_true, Traced.value_pure, hkept] at hfailure
          cases hfailure
      | true =>
          rw [if_pos rfl] at hfailure ⊢
          cases hleading : leadingFailure? later.children with
          | none =>
              simp only [hleading] at hfailure ⊢
              exact ih hkept hfailure
          | some other =>
              simp only [hleading, Traced.value_pure] at hfailure ⊢
              cases hfailure
              exact mem_of_leadingFailure? hleading

/-- The part of a poll of a group that polls children. -/
def pollChildren (poll : Execution → Traced Polled) (children : List Execution)
    (queue : List Nat) : Traced Round :=
  if isWide children then
    pollQueue poll (children.countP (!·.isFinished)) { children, queue }
  else pollAll poll 0 children

theorem steps_pollChildren
    (hpoll : ∀ child, Steps answer child (poll child).effects
      (poll child).value.execution)
    (op : BoolOp) (children : List Execution) (queue : List Nat) :
    Steps answer (.joining op children queue)
      (pollChildren poll children queue).effects
      (.joining op (pollChildren poll children queue).value.children queue) := by
  rw [pollChildren]
  split
  · exact steps_pollQueue hpoll op queue _ { children, queue }
  · exact steps_pollAll hpoll op queue [] children 0

theorem failure_mem_pollChildren {children : List Execution} {queue : List Nat}
    {error : RemoteError}
    (hfailure : (pollChildren poll children queue).value.failure = some error) :
    .finished (.error error) ∈ (pollChildren poll children queue).value.children := by
  rw [pollChildren] at hfailure ⊢
  split
  · rename_i hwide
    rw [if_pos hwide] at hfailure
    exact failure_mem_pollQueue rfl hfailure
  · rename_i hnarrow
    rw [if_neg hnarrow] at hfailure
    exact failure_mem_pollAll hfailure

/-- What a group is after its children have been polled. -/
def Round.outcome (round : Round) (op : BoolOp) : Execution :=
  match round.failure, results? round.children with
  | some error, _ => .finished (.error error)
  | none, none => .joining op round.children round.queue
  | none, some lists => .finished (.ok (NestedQuery.merge op lists))

/-- The effects of what a group does after its children have been polled. -/
def Round.closing (round : Round) (op : BoolOp) : Effects :=
  match round.failure, results? round.children with
  | none, some lists => merging op (NestedQuery.merge op lists)
  | _, _ => {}

/-- The part of a poll of a group that comes after its children. -/
def Round.conclude (op : BoolOp) (round : Round) : Traced Polled :=
  ⟨{ execution := round.outcome op, again := round.again, wakes := round.wakes },
    round.closing op⟩

theorem pollGroup_eq_bind (poll : Execution → Traced Polled) (op : BoolOp)
    (children : List Execution) (queue : List Nat) :
    pollGroup poll op children queue =
      pollChildren poll children queue >>= Round.conclude op := by
  rw [pollGroup, pollChildren]
  split
  all_goals
    refine congrArg (_ >>= ·) (funext fun round => ?_)
    dsimp only
    rw [Round.conclude, Round.outcome, Round.closing]
    cases round.failure with
    | some error => rfl
    | none =>
        cases results? round.children with
        | none => rfl
        | some lists =>
            refine congrArg (Traced.mk _) ?_
            exact Effects.append_empty _

theorem value_pollGroup (poll : Execution → Traced Polled) (op : BoolOp)
    (children : List Execution) (queue : List Nat) :
    (pollGroup poll op children queue).value =
      { execution := (pollChildren poll children queue).value.outcome op
        again := (pollChildren poll children queue).value.again
        wakes := (pollChildren poll children queue).value.wakes } := by
  rw [pollGroup_eq_bind]
  rfl

theorem effects_pollGroup (poll : Execution → Traced Polled) (op : BoolOp)
    (children : List Execution) (queue : List Nat) :
    (pollGroup poll op children queue).effects =
      (pollChildren poll children queue).effects ++
        (pollChildren poll children queue).value.closing op := by
  rw [pollGroup_eq_bind]
  rfl

/-- A poll of a group is a sequence of its steps. -/
theorem steps_pollGroup
    (hpoll : ∀ child, Steps answer child (poll child).effects
      (poll child).value.execution)
    (op : BoolOp) (children : List Execution) (queue : List Nat) :
    Steps answer (.joining op children queue)
      (pollGroup poll op children queue).effects
      (pollGroup poll op children queue).value.execution := by
  have hround := steps_pollChildren hpoll op children queue
  have hfailed := @failure_mem_pollChildren poll children queue
  rw [value_pollGroup, effects_pollGroup]
  generalize pollChildren poll children queue = polled at *
  obtain ⟨round, effects⟩ := polled
  refine hround.trans (.single ?_)
  simp only [Round.outcome, Round.closing]
  cases hfailure : round.failure with
  | some error => exact .abort (hfailed hfailure)
  | none =>
      cases hresults : results? round.children with
      | none => exact .requeue op round.children queue round.queue
      | some lists => exact .merge hresults

end Polling

/-! ## Polls, wakes and runs -/

/-- What a direct step does once its query has been handed to the client. -/
def delivered (resumption : Resumption) : Delivery → Traced Polled
  | .refused error => ⟨{ execution := .finished (.error error) }, failing error⟩
  | .sent reply =>
      ⟨{ execution := .waiting reply
         again := resumption = .duringPoll
         wakes := if resumption = .afterPoll then [[]] else [] }, {}⟩

theorem poll_direct (answer : Answer) (resumption : Resumption) (depth : Nat)
    (filter : Option Filter) (sort : Option ResolvedSort) (level : Nat) :
    poll answer resumption depth (.planned (.direct filter sort level)) =
      ⟨(delivered resumption (answer (.ofSort filter sort))).value,
        sending filter sort level ++
          (delivered resumption (answer (.ofSort filter sort))).effects⟩ := by
  have hdelivered : ∀ delivery, delivered resumption delivery =
      match delivery with
      | .refused error => failStep error
      | .sent reply => pure
          { execution := .waiting reply
            again := resumption = .duringPoll
            wakes := if resumption = .afterPoll then [[]] else [] } := by
    intro delivery
    cases delivery <;> rfl
  have hassoc : ∀ first second third rest : Effects,
      first ++ (second ++ (third ++ rest)) = first ++ second ++ third ++ rest := by
    intro first second third rest
    rw [Effects.append_assoc, Effects.append_assoc]
  rw [hdelivered]
  cases depth with
  | zero => exact congrArg (Traced.mk _) (hassoc _ _ _ _)
  | succ depth => exact congrArg (Traced.mk _) (hassoc _ _ _ _)

theorem poll_waiting (answer : Answer) (resumption : Resumption) (depth : Nat)
    (reply : Except RemoteError Page) :
    poll answer resumption depth (.waiting reply) =
      match reply with
      | .ok page => ⟨{ execution := .finished (.ok page.records) }, {}⟩
      | .error error => ⟨{ execution := .finished (.error error) }, failing error⟩ := by
  cases reply <;> cases depth <;> rfl

theorem poll_finished (answer : Answer) (resumption : Resumption) (depth : Nat)
    (result : Except RemoteError (List Record)) :
    poll answer resumption depth (.finished result) =
      ⟨{ execution := .finished result }, {}⟩ := by
  cases depth <;> rfl

theorem poll_joining (answer : Answer) (resumption : Resumption) (depth : Nat)
    (op : BoolOp) (children : List Execution) (queue : List Nat) :
    poll answer resumption (depth + 1) (.joining op children queue) =
      pollGroup (poll answer resumption depth) op children queue := rfl

/-- The queue a group starts with. -/
def firstQueue (plans : List Plan) : List Nat :=
  if isWide plans then List.range plans.length else []

theorem poll_merge (answer : Answer) (resumption : Resumption) (depth : Nat)
    (op : BoolOp) (level : Nat) (plans : List Plan) :
    poll answer resumption (depth + 1) (.planned (.merge op level plans)) =
      ⟨(pollGroup (poll answer resumption depth) op (plans.map .planned)
          (firstQueue plans)).value,
        splitting op level plans ++
          (pollGroup (poll answer resumption depth) op (plans.map .planned)
            (firstQueue plans)).effects⟩ := by
  rw [poll]
  refine congrArg (Traced.mk _) ?_
  exact (Effects.append_assoc _ _ _).symm

theorem steps_poll_direct (answer : Answer) (resumption : Resumption)
    (depth : Nat) (filter : Option Filter) (sort : Option ResolvedSort)
    (level : Nat) :
    Steps answer (.planned (.direct filter sort level))
      (poll answer resumption depth (.planned (.direct filter sort level))).effects
      (poll answer resumption depth
        (.planned (.direct filter sort level))).value.execution := by
  rw [poll_direct]
  cases hanswer : answer (.ofSort filter sort) with
  | refused error => exact .single (.refuse hanswer)
  | sent reply =>
      rw [delivered, Effects.append_empty]
      exact .single (.send hanswer)

theorem steps_poll_waiting (answer : Answer) (resumption : Resumption)
    (depth : Nat) (reply : Except RemoteError Page) :
    Steps answer (.waiting reply)
      (poll answer resumption depth (.waiting reply)).effects
      (poll answer resumption depth (.waiting reply)).value.execution := by
  rw [poll_waiting]
  cases reply with
  | ok page => exact .single (.receive page)
  | error error => exact .single (.fail error)

/-- A poll is a sequence of steps. -/
theorem steps_poll (answer : Answer) (resumption : Resumption) (depth : Nat)
    (execution : Execution) :
    Steps answer execution (poll answer resumption depth execution).effects
      (poll answer resumption depth execution).value.execution := by
  induction depth generalizing execution with
  | zero =>
      cases execution with
      | planned plan =>
          cases plan with
          | direct filter sort level =>
              exact steps_poll_direct answer resumption 0 _ _ _
          | merge op level plans => exact .refl _
      | waiting reply => exact steps_poll_waiting answer resumption 0 reply
      | joining op children queue => exact .refl _
      | finished result => exact .refl _
  | succ depth ih =>
      cases execution with
      | planned plan =>
          cases plan with
          | direct filter sort level =>
              exact steps_poll_direct answer resumption (depth + 1) _ _ _
          | merge op level plans =>
              have hgroup := steps_pollGroup ih op (plans.map .planned)
                (firstQueue plans)
              rw [poll_merge]
              exact (Steps.single (.split op level plans _)).trans hgroup
      | waiting reply => exact steps_poll_waiting answer resumption (depth + 1) reply
      | joining op children queue => exact steps_pollGroup ih op children queue
      | finished result => exact .refl _

/-- A wake changes queues only. -/
theorem steps_wake (answer : Answer) (path : List Nat) (execution : Execution) :
    Steps answer execution {} (wake path execution).1 := by
  induction path generalizing execution with
  | nil => exact .refl _
  | cons position path ih =>
      cases execution with
      | joining op children queue =>
          rw [wake]
          split
          · exact .refl _
          · rename_i child hchild
            have hset := (ih child).childAt hchild op queue
            generalize wake path child = woken at *
            obtain ⟨after, asked⟩ := woken
            dsimp only at hset ⊢
            split
            · exact hset
            · split
              · exact hset.trans (.single (.requeue op _ queue _))
              · exact hset
      | planned plan => exact .refl _
      | waiting reply => exact .refl _
      | finished result => exact .refl _

theorem steps_resume (answer : Answer) (polled : Polled) :
    Steps answer polled.execution {} polled.resume := by
  rw [Polled.resume]
  induction polled.wakes with
  | nil => exact .refl _
  | cons path wakes ih => exact ih.trans (steps_wake answer path _)

/-- A run is a sequence of steps. -/
theorem steps_run (answer : Answer) (resumption : Resumption) (depth polls : Nat)
    (execution : Execution) :
    ∃ last, Steps answer execution
      (run answer resumption depth polls execution).effects last := by
  induction polls generalizing execution with
  | zero => exact ⟨execution, .refl _⟩
  | succ polls ih =>
      have hpoll := steps_poll answer resumption depth execution
      rw [run, Traced.effects_bind]
      split
      · rw [Traced.effects_pure, Effects.append_empty]
        exact ⟨_, hpoll⟩
      · obtain ⟨last, hlast⟩ :=
          ih (poll answer resumption depth execution).value.resume
        have hresume := steps_resume answer
          (poll answer resumption depth execution).value
        have hrest := hresume.trans hlast
        rw [Effects.empty_append] at hrest
        exact ⟨last, hpoll.trans hrest⟩

end Execution

end NestedQuery
