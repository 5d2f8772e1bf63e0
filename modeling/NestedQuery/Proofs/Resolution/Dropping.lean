import NestedQuery.Proofs.Resolution.Narrow
import Mathlib.Data.List.Flatten

/-!
# First polls

The first poll of a plan none of whose queries is refused takes no answer, so it
ends nothing and meets no failure.  What it logs are entries of the opening, in
their order.  A wide group that gives way leaves out the openings of the children
it has not come to.
-/

namespace NestedQuery

namespace Execution

/-- What the first poll of a plan does, even if it does not come to all parts. -/
structure Begins (plan : Plan) (first : Traced Polled) : Prop where
  waits : first.value.execution.isFinished = false
  logged_sublist : first.effects.logged.Sublist plan.opening.logged

section Groups

variable {poll : Execution → Traced Polled} {plans : List Plan}

/-- What polling the children of a group for the first time comes to, even if it does
not come to all of them. -/
structure Begun (plans : List Plan) (round : Traced Round) : Prop where
  failure : round.value.failure = none
  waits : ∀ child ∈ round.value.children, child.isFinished = false
  length_eq : round.value.children.length = plans.length
  logged_sublist :
    round.effects.logged.Sublist (plans.flatMap fun plan => plan.opening.logged)

theorem begun_pollAll (hbegins : ∀ plan ∈ plans, Begins plan (poll (.planned plan))) :
    Begun plans (pollAll poll 0 (plans.map planned)) := by
  have hwaits : ∀ child ∈ plans.map planned,
      (poll child).value.execution.isFinished = false := by
    intro child hmem
    obtain ⟨plan, hplan, rfl⟩ := List.mem_map.mp hmem
    exact (hbegins plan hplan).waits
  obtain ⟨hfailure, heffects⟩ := failure_pollAll_of_waiting hwaits 0
  have hchildren := (surveyed_pollAll hfailure).children_eq
  refine ⟨hfailure, ?_, ?_, ?_⟩
  · rw [hchildren, List.forall_mem_map]
    exact hwaits
  · rw [hchildren, List.length_map, List.length_map]
  · rw [heffects, Effects.logged_concat, List.map_map, List.flatMap_map]
    exact List.Sublist.flatMap_right plans
      fun plan hplan => (hbegins plan hplan).logged_sublist

theorem pollUntilDone_begins (left : List Execution)
    (hbegins : ∀ plan ∈ plans, Begins plan (poll (.planned plan)))
    (hleft : ∀ child ∈ left, child.isFinished = false)
    {round : Round} (patience : Nat) (hround : Entered left plans round) :
    ∃ later, (pollUntilDone poll plans.length patience round).value = (false, later) ∧
      (∀ child ∈ later.children, child.isFinished = false) ∧
      later.children.length = left.length + plans.length ∧
      (pollUntilDone poll plans.length patience round).effects.logged.Sublist
        (plans.flatMap fun plan => plan.opening.logged) := by
  induction plans generalizing left round patience with
  | nil =>
      refine ⟨{ round with again := true }, ?_, hround.waits hleft, hround.length_eq, ?_⟩
      · cases patience <;> rfl
      · cases patience <;> exact List.Sublist.refl _
  | cons plan rest ih =>
      cases patience with
      | zero =>
          exact ⟨{ round with again := true }, rfl, hround.waits hleft,
            hround.length_eq, List.nil_sublist _⟩
      | succ patience =>
          obtain ⟨hplan, hrest⟩ := List.forall_mem_cons.mp hbegins
          obtain ⟨queue, hhead, hchild, hnext⟩ :=
            hround.turn (poll (.planned plan)).value
          have hpolled : ∀ child ∈ left ++ [(poll (.planned plan)).value.execution],
              child.isFinished = false := by
            rw [List.forall_mem_append, List.forall_mem_singleton]
            exact ⟨hleft, hplan.waits⟩
          have hcount : (left ++ [(poll (.planned plan)).value.execution]).length +
              rest.length = left.length + (plan :: rest).length := by
            rw [List.length_append, List.length_singleton, List.length_cons,
              Nat.add_assoc, Nat.add_comm 1]
          obtain ⟨later, hvalue, hlater, hlaterlength, hlogged⟩ :=
            ih _ hrest hpolled (if (poll (.planned plan)).value.again then patience
              else patience + 1) hnext
          refine ⟨later, ?_, hlater, hlaterlength.trans hcount, ?_⟩
          · simp only [List.length_cons, pollUntilDone, hhead, hchild,
              Traced.value_bind, hplan.waits]
            exact hvalue
          · simp only [List.length_cons, pollUntilDone, hhead, hchild,
              Traced.effects_bind, hplan.waits, Effects.logged_append,
              List.flatMap_cons]
            exact hplan.logged_sublist.append hlogged

theorem begun_pollQueue
    (hbegins : ∀ plan ∈ plans, Begins plan (poll (.planned plan))) (hne : plans ≠ []) :
    Begun plans (pollQueue poll (firstRound plans).unfinished (firstRound plans)) := by
  obtain ⟨later, hvalue, hwaits, hlength, hlogged⟩ :=
    pollUntilDone_begins [] hbegins (List.forall_mem_nil _) 2 (entered_firstRound plans)
  have hfailure := failure_pollUntilDone poll plans.length 2 (firstRound plans)
  obtain ⟨unfinished, hcount⟩ :=
    Nat.exists_eq_add_one_of_ne_zero (mt List.length_eq_zero_iff.mp hne)
  rw [hcount] at hvalue hfailure hlogged
  rw [hvalue] at hfailure
  rw [unfinished_firstRound, hcount]
  obtain ⟨hlater, hsame⟩ := pollQueue_of_not_done hvalue
  constructor
  · rw [hlater]
    exact hfailure
  · rw [hlater]
    exact hwaits
  · rw [hlater, hlength]
    exact Nat.zero_add _
  · rw [hsame]
    exact hlogged

/-- A group whose children begin begins. -/
theorem begins_pollGroup {op : BoolOp} {level : Nat}
    (hbegins : ∀ plan ∈ plans, Begins plan (poll (.planned plan))) (hne : plans ≠ []) :
    Begins (.merge op level plans)
      ⟨(pollGroup poll op (plans.map planned) (firstQueue plans)).value,
        splitting op level plans ++
          (pollGroup poll op (plans.map planned) (firstQueue plans)).effects⟩ := by
  have hbegun : Begun plans
      (pollChildren poll (plans.map planned) (firstQueue plans)) := by
    rw [pollChildren, isWide_map, firstQueue]
    cases isWide plans with
    | false => exact begun_pollAll hbegins
    | true => exact begun_pollQueue hbegins hne
  have hvalue := value_pollGroup poll op (plans.map planned) (firstQueue plans)
  have heffects := effects_pollGroup poll op (plans.map planned) (firstQueue plans)
  generalize pollChildren poll (plans.map planned) (firstQueue plans) = round at *
  have hresults : results? round.value.children = none := by
    obtain ⟨first, rest, hchildren⟩ := List.exists_cons_of_ne_nil
      (mt List.length_eq_zero_iff.mpr
        (by rw [hbegun.length_eq, List.length_eq_zero_iff]; exact hne))
    rw [hchildren]
    exact results?_cons_of_unfinished
      (hbegun.waits first (hchildren ▸ List.mem_cons_self)) rest
  simp only [Round.outcome, Round.closing, hbegun.failure, hresults] at hvalue heffects
  constructor
  · rw [hvalue]
    rfl
  · rw [heffects, Effects.append_empty, Plan.opening_merge, Effects.logged_append,
      Effects.logged_append, Effects.logged_concat, List.flatMap_map]
    exact (List.Sublist.refl _).append hbegun.logged_sublist

end Groups

/-- The first poll of a plan none of whose queries is refused. -/
theorem begins_poll {answer : Answer} {resumption : Resumption} {depth : Nat}
    {plan : Plan} (hdepth : plan.depth ≤ depth) (hbranching : plan.Branching)
    (hsends : ∀ query ∈ plan.queries, ∃ reply, answer query = .sent reply) :
    Begins plan (poll answer resumption depth (.planned plan)) := by
  induction hbranching generalizing depth with
  | direct filter sort level =>
      obtain ⟨reply, hreply⟩ := hsends _ (List.mem_singleton_self _)
      rw [poll_direct, hreply]
      exact ⟨rfl, List.Sublist.refl _⟩
  | merge hne _ ih =>
      rename_i op level plans
      cases depth with
      | zero => exact absurd hdepth (Nat.not_succ_le_zero _)
      | succ depth =>
          have hlow := Plan.allDepth_le_iff.mp (Nat.le_of_succ_le_succ hdepth)
          rw [poll_merge]
          apply begins_pollGroup _ hne
          intro plan hplan
          exact ih plan hplan (hlow plan hplan) fun query hquery =>
            hsends query (Plan.mem_queries_merge hplan hquery)

end Execution

namespace Plan

open Execution

variable {answer : Answer} {plan : Plan}

/-- A plan none of whose queries is refused is not done after its first poll. -/
theorem launch_waits (hbranching : plan.Branching)
    (hsends : ∀ query ∈ plan.queries, ∃ reply, answer query = .sent reply)
    (resumption : Resumption) :
    (plan.launch answer resumption).value.isFinished = false :=
  (begins_poll (Nat.le_refl plan.depth) hbranching hsends).waits

/-- The first poll logs entries of the opening, in their order. -/
theorem logged_launch_sublist (hbranching : plan.Branching)
    (hsends : ∀ query ∈ plan.queries, ∃ reply, answer query = .sent reply)
    (resumption : Resumption) :
    (plan.launch answer resumption).effects.logged.Sublist plan.opening.logged := by
  rw [launch, Traced.effects_bind, Traced.effects_pure, Effects.append_empty]
  exact (begins_poll (Nat.le_refl plan.depth) hbranching hsends).logged_sublist

end Plan

end NestedQuery
