import NestedQuery.Proofs.Resolution.Progress

/-!
# Executions that have sent everything

An execution without planned parts only takes answers, and it has all of them:
if no wake is outstanding, its next poll ends it with its evaluation.  A narrow
group takes the answers from left to right, a wide group in the order of its
queue, and both stop at the failure that comes first from the left.
-/

namespace NestedQuery

namespace Execution

/-- Every query of the execution has been sent. -/
inductive Launched : Execution → Prop
  | waiting (reply : Except RemoteError Page) : Launched (.waiting reply)
  | joining {op : BoolOp} {children : List Execution} {queue : List Nat}
      (hchildren : ∀ child ∈ children, Launched child) :
      Launched (.joining op children queue)
  | finished (result : Except RemoteError (List Record)) : Launched (.finished result)

variable {answer : Answer}

theorem Launched.unsent_eq_nil {execution : Execution}
    (hlaunched : execution.Launched) : execution.unsent = [] := by
  induction hlaunched with
  | waiting reply => rfl
  | joining hchildren ih =>
      rw [unsent_joining, List.flatMap_eq_nil_iff]
      exact ih
  | finished result => rfl

theorem Launched.wake {execution : Execution} (hlaunched : execution.Launched)
    (path : List Nat) : (Execution.wake path execution).1.Launched := by
  induction path generalizing execution with
  | nil => exact hlaunched
  | cons position path ih =>
      cases hlaunched with
      | waiting reply => exact .waiting reply
      | finished result => exact .finished result
      | joining hchildren =>
          rename_i op children queue
          cases hchild : children[position]? with
          | none =>
              rw [Execution.wake, hchild]
              exact .joining hchildren
          | some child =>
              obtain ⟨other, hother⟩ := exists_queue_woken op children queue position
                (Execution.wake path child)
              rw [wake_joining hchild, hother]
              apply Launched.joining
              intro later hmem
              rcases List.mem_or_eq_of_mem_set hmem with hmem | rfl
              · exact hchildren later hmem
              · exact ih (hchildren child (List.mem_of_getElem? hchild))

theorem map_set_of_eq {A : Type} {f : Execution → A} {children : List Execution}
    {position : Nat} {before after : Execution}
    (hchild : children[position]? = some before) (hsame : f after = f before) :
    (children.set position after).map f = children.map f := by
  obtain ⟨hlt, rfl⟩ := List.getElem?_eq_some_iff.mp hchild
  rw [List.map_set, hsame, ← List.map_set, List.set_getElem_self]

theorem evaluate_wake (answer : Answer) (path : List Nat) (execution : Execution) :
    (wake path execution).1.evaluate answer = execution.evaluate answer := by
  induction path generalizing execution with
  | nil => rfl
  | cons position path ih =>
      cases execution with
      | planned plan => rfl
      | waiting reply => rfl
      | finished result => rfl
      | joining op children queue =>
          cases hchild : children[position]? with
          | none => rw [wake, hchild]
          | some child =>
              obtain ⟨other, hother⟩ := exists_queue_woken op children queue position
                (wake path child)
              rw [wake_joining hchild, hother, evaluate_joining, evaluate_joining,
                map_set_of_eq hchild (ih child)]

theorem Launched.resume {polled : Polled} (hlaunched : polled.execution.Launched) :
    polled.resume.Launched := by
  rw [Polled.resume]
  induction polled.wakes with
  | nil => exact hlaunched
  | cons path wakes ih => exact ih.wake path

theorem evaluate_resume (answer : Answer) (polled : Polled) :
    polled.resume.evaluate answer = polled.execution.evaluate answer := by
  rw [Polled.resume]
  induction polled.wakes with
  | nil => rfl
  | cons path wakes ih => exact (evaluate_wake answer path _).trans ih

/-! ## Groups -/

/-- What a round has come to, as one result. -/
def Round.ComesTo (round : Round) (result : Except RemoteError (List (List Record))) :
    Prop :=
  match result with
  | .error error => round.failure = some error
  | .ok lists => round.failure = none ∧ results? round.children = some lists

theorem Round.ComesTo.outcome_eq {round : Round}
    {result : Except RemoteError (List (List Record))} (hround : round.ComesTo result)
    (op : BoolOp) :
    round.outcome op = .finished (result.map (NestedQuery.merge op)) := by
  rw [Round.outcome]
  cases result with
  | error error =>
      have hfailure : round.failure = some error := hround
      rw [hfailure]
      rfl
  | ok lists =>
      obtain ⟨hfailure, hresults⟩ := hround
      rw [hfailure, hresults]
      rfl

/-- The next poll of an execution ends it with its evaluation. -/
def Settles (answer : Answer) (poll : Execution → Traced Polled)
    (execution : Execution) : Prop :=
  (poll execution).value.execution = .finished (execution.evaluate answer)

section Groups

variable {poll : Execution → Traced Polled}

theorem comesTo_pollAll {children : List Execution}
    (hsettles : ∀ child ∈ children, Settles answer poll child) (position : Nat) :
    (pollAll poll position children).value.ComesTo
      (gather (children.map (evaluate answer))) := by
  induction children generalizing position with
  | nil => exact ⟨rfl, rfl⟩
  | cons child rest ih =>
      obtain ⟨hchild, hrest⟩ := List.forall_mem_cons.mp hsettles
      have hothers := ih hrest (position + 1)
      rw [Settles] at hchild
      rw [pollAll, List.map_cons]
      simp only [Traced.value_bind, hchild]
      cases child.evaluate answer with
      | error error => rfl
      | ok records =>
          rw [gather]
          cases hgather : gather (rest.map (evaluate answer)) with
          | error error =>
              rw [hgather] at hothers
              exact hothers
          | ok lists =>
              rw [hgather] at hothers
              obtain ⟨hfailure, hresults⟩ := hothers
              exact ⟨hfailure, congrArg (Option.map (records :: ·)) hresults⟩

/-- A failure that no unfinished child precedes is that of the evaluation. -/
theorem gather_of_leadingFailure? {children : List Execution} {error : RemoteError}
    (hleading : leadingFailure? children = some error) :
    gather (children.map (evaluate answer)) = .error error := by
  induction children with
  | nil => cases hleading
  | cons child children ih =>
      cases child with
      | planned plan => cases hleading
      | waiting reply => cases hleading
      | joining op children queue => cases hleading
      | finished result =>
          cases result with
          | error other =>
              cases hleading
              rfl
          | ok records =>
              rw [List.map_cons, evaluate, gather, ih hleading]
              rfl

/-- Without unfinished children and failures there are results. -/
theorem results?_of_finished {children : List Execution}
    (hfinished : ∀ child ∈ children, child.isFinished = true)
    (hleading : leadingFailure? children = none) :
    ∃ lists, results? children = some lists ∧
      gather (children.map (evaluate answer)) = .ok lists := by
  induction children with
  | nil => exact ⟨[], rfl, rfl⟩
  | cons child children ih =>
      obtain ⟨hchild, hchildren⟩ := List.forall_mem_cons.mp hfinished
      obtain ⟨result, rfl⟩ := exists_result_of_isFinished hchild
      cases result with
      | error error => cases hleading
      | ok records =>
          obtain ⟨lists, hresults, hgather⟩ := ih hchildren hleading
          refine ⟨records :: lists, ?_, ?_⟩
          · rw [results?, hresults]
            rfl
          · rw [List.map_cons, evaluate, gather, hgather]
            rfl

/-- The invariant of a wide group that takes answers only: each unfinished child
is in the queue and ends with its next poll. -/
structure Settling (answer : Answer) (poll : Execution → Traced Polled)
    (round : Round) : Prop where
  queued : Queued round.children round.queue
  complete : ∀ position child, round.children[position]? = some child →
    child.isFinished = false → position ∈ round.queue
  settles : ∀ child ∈ round.children, child.isFinished = false →
    Settles answer poll child
  failure : round.failure = none

/-- The first child of the queue is done by its poll, and nothing else changes. -/
theorem Settling.pollUntilDone {round : Round}
    (hsettling : Settling answer poll round) (polls patience : Nat)
    {position : Nat} {child : Execution}
    (hchild : round.children[position]? = some child)
    (hopen : child.isFinished = false) :
    ∃ later, (Execution.pollUntilDone poll (polls + 1) (patience + 1) round).value =
        (true, later) ∧
      Settling answer poll later ∧ later.unfinished + 1 = round.unfinished ∧
      later.children.map (evaluate answer) = round.children.map (evaluate answer) := by
  obtain ⟨head, queue, hqueue⟩ := List.exists_cons_of_ne_nil
    (List.ne_nil_of_mem (hsettling.complete position child hchild hopen))
  have hqueued := hsettling.queued
  rw [hqueue] at hqueued
  obtain ⟨first, hfirst, hwaits⟩ := hqueued.unfinished head List.mem_cons_self
  have hsettles : (poll first).value.execution = .finished (first.evaluate answer) :=
    hsettling.settles first (List.mem_of_getElem? hfirst) hwaits
  have hdone : (poll first).value.execution.isFinished = true := by rw [hsettles]; rfl
  have hcount := Round.unfinished_replace hfirst hwaits queue (poll first).value
  have hkept : (round.replace head queue (poll first).value).queue = queue := by
    rw [Round.replace, hdone, Bool.not_true, Bool.and_false]
    rfl
  refine ⟨round.replace head queue (poll first).value, ?_, ?_, ?_, ?_⟩
  · simp only [Execution.pollUntilDone, hqueue, hfirst, Traced.value_bind, hdone]
    rfl
  · constructor
    · rw [hkept]
      exact hqueued.tail _
    · intro index other hother hwaiting
      rw [hkept]
      rcases child_of_set hother with ⟨rfl, rfl⟩ | ⟨hne, hother⟩
      · rw [hdone] at hwaiting
        cases hwaiting
      · have hmem := hsettling.complete index other hother hwaiting
        rw [hqueue] at hmem
        exact (List.mem_cons.mp hmem).resolve_left hne
    · intro other hmem hwaiting
      rcases List.mem_or_eq_of_mem_set hmem with hmem | rfl
      · exact hsettling.settles other hmem hwaiting
      · rw [hdone] at hwaiting
        cases hwaiting
    · exact hsettling.failure
  · rw [hdone] at hcount
    exact hcount
  · apply map_set_of_eq hfirst
    rw [hsettles, evaluate]

theorem comesTo_pollQueue {unfinished : Nat} {round : Round}
    (hsettling : Settling answer poll round) (hcount : round.unfinished = unfinished)
    (hleading : leadingFailure? round.children = none) :
    (pollQueue poll unfinished round).value.ComesTo
      (gather (round.children.map (evaluate answer))) := by
  induction unfinished generalizing round with
  | zero =>
      have hfinished : ∀ child ∈ round.children, child.isFinished = true := by
        intro child hmem
        have hnot := List.countP_eq_zero.mp hcount child hmem
        simpa using hnot
      obtain ⟨lists, hresults, hgather⟩ :=
        @results?_of_finished answer _ hfinished hleading
      rw [hgather]
      exact ⟨hsettling.failure, hresults⟩
  | succ unfinished ih =>
      have hpositive : 0 < round.unfinished := by
        rw [hcount]
        exact Nat.succ_pos unfinished
      obtain ⟨child, hmem, hwaits⟩ := List.countP_pos_iff.mp hpositive
      rw [Bool.not_eq_true'] at hwaits
      obtain ⟨position, hchild⟩ := List.mem_iff_getElem?.mp hmem
      obtain ⟨later, hlater, hnext, hless, hsame⟩ :=
        hsettling.pollUntilDone unfinished 1 hchild hwaits
      rw [pollQueue]
      simp only [Traced.value_bind, hlater]
      rw [if_pos trivial, ← hsame]
      -- A failure behind an unfinished child is held back and met again later.
      cases hafter : leadingFailure? later.children with
      | some error =>
          rw [gather_of_leadingFailure? hafter]
          rfl
      | none =>
          rw [hcount] at hless
          exact ih hnext (Nat.succ.inj hless) hafter

theorem settles_pollGroup {op : BoolOp} {children : List Execution}
    {queue : List Nat}
    (hsettles : ∀ child ∈ children, Settles answer poll child)
    (hready : Ready (.joining op children queue)) :
    (pollGroup poll op children queue).value.execution =
      .finished ((joining op children queue).evaluate answer) := by
  rw [value_pollGroup, evaluate_joining, pollChildren]
  cases hwide : isWide children with
  | false => exact (comesTo_pollAll hsettles 0).outcome_eq op
  | true =>
      obtain ⟨hnodup, hqueue⟩ := hready.queue hwide
      have hsettling : Settling answer poll { children, queue } :=
        ⟨⟨hnodup, fun position hmem => (hqueue position).mp hmem⟩,
          fun position child hchild hopen =>
            (hqueue position).mpr ⟨child, hchild, hopen⟩,
          fun child hmem _ => hsettles child hmem, rfl⟩
      exact (comesTo_pollQueue hsettling rfl hready.pending.1).outcome_eq op

end Groups

/-- An execution that has sent everything ends with its next poll. -/
theorem settles_poll (answer : Answer) (resumption : Resumption) {depth : Nat}
    {execution : Execution} (hlow : execution.height ≤ depth) :
    execution.Launched → Ready execution →
      Settles answer (poll answer resumption depth) execution := by
  induction hlow using height_induct with
  | direct depth filter sort level =>
      intro hlaunched
      cases hlaunched
  | merge depth op level plans =>
      intro hlaunched
      cases hlaunched
  | waiting depth reply =>
      intro _ _
      rw [Settles, poll_waiting]
      cases reply <;> rfl
  | finished depth result =>
      intro _ _
      rw [Settles, poll_finished]
      rfl
  | joining depth op children queue _ hlow ih =>
      intro hlaunched hready
      rw [Settles, poll_joining]
      apply settles_pollGroup _ hready
      intro child hmem
      cases hlaunched with
      | joining hchildren =>
          exact ih child (hlow child hmem) (hchildren child hmem) (hready.child hmem)

/-- An execution that has sent everything sends nothing more. -/
theorem Launched.sent_poll {execution : Execution} (hlaunched : execution.Launched)
    (answer : Answer) (resumption : Resumption) (depth : Nat) :
    (poll answer resumption depth execution).effects.sent = [] := by
  have hsent := (steps_poll answer resumption depth execution).sent_subperm
  rw [hlaunched.unsent_eq_nil] at hsent
  exact List.subperm_nil.mp hsent

/-- Such an execution has its evaluation for a result, and nothing more is sent. -/
theorem run_of_launched (answer : Answer) (resumption : Resumption) {depth : Nat}
    (polls : Nat) {execution : Execution} (hlaunched : execution.Launched)
    (hready : Ready execution) (hlow : execution.height ≤ depth) :
    (run answer resumption depth (polls + 1) execution).value =
        execution.evaluate answer ∧
      (run answer resumption depth (polls + 1) execution).effects.sent = [] := by
  have hsettles := settles_poll answer resumption hlow hlaunched hready
  have hsilent := hlaunched.sent_poll answer resumption depth
  rw [Settles] at hsettles
  rw [run]
  simp only [Traced.value_bind, Traced.effects_bind, Effects.sent_append, hsettles,
    hsilent, Traced.value_pure, Traced.effects_pure]
  exact ⟨trivial, rfl⟩

end Execution

end NestedQuery
