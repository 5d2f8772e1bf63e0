import NestedQuery.Proofs.Resolution.Launching

/-!
# Plans without wide groups

A narrow group polls all its children, and a wake changes nothing in it.  A plan
without wide groups is therefore executed by two polls, whenever they are asked for:
the first is the opening of the plan, the second its closing.  So everything it
sends, counts and logs is known, and in which order.
-/

namespace NestedQuery

namespace Plan

/-- No merge step has so many children that they are polled from a queue. -/
inductive Narrow : Plan → Prop
  | direct (filter : Option Filter) (sort : Option ResolvedSort) (level : Nat) :
      Narrow (.direct filter sort level)
  | merge {op : BoolOp} {level : Nat} {children : List Plan}
      (hwidth : Execution.isWide children = false)
      (hchildren : ∀ child ∈ children, Narrow child) :
      Narrow (.merge op level children)

mutual

def isNarrow : Plan → Bool
  | .direct _ _ _ => true
  | .merge _ _ children => !Execution.isWide children && allNarrow children

def allNarrow : List Plan → Bool
  | [] => true
  | plan :: plans => plan.isNarrow && allNarrow plans

end

theorem isNarrow_iff {plan : Plan} : plan.isNarrow = true ↔ plan.Narrow := by
  induction plan using Plan.induct with
  | direct filter sort level => exact iff_of_true rfl (.direct filter sort level)
  | merge op level children ih =>
      have hall : allNarrow children = true ↔ ∀ child ∈ children, child.Narrow := by
        induction children with
        | nil => exact iff_of_true rfl (List.forall_mem_nil _)
        | cons child children ihrest =>
            obtain ⟨hchild, hchildren⟩ := List.forall_mem_cons.mp ih
            rw [allNarrow, Bool.and_eq_true, hchild, ihrest hchildren,
              List.forall_mem_cons]
      rw [isNarrow, Bool.and_eq_true, Bool.not_eq_true', hall]
      constructor
      · rintro ⟨hwidth, hchildren⟩
        exact .merge hwidth hchildren
      · intro hnarrow
        cases hnarrow with
        | merge hwidth hchildren => exact ⟨hwidth, hchildren⟩

instance (plan : Plan) : Decidable plan.Narrow := decidable_of_iff _ isNarrow_iff

theorem Narrow.orderly {plan : Plan} (hnarrow : plan.Narrow) (resumption : Resumption) :
    plan.Orderly resumption := by
  induction hnarrow with
  | direct filter sort level => exact .direct filter sort level
  | merge hwidth _ ih =>
      apply Orderly.merge ih
      intro hwide
      rw [hwidth] at hwide
      cases hwide

mutual

/-- A plan all of whose queries have been sent. -/
def launched (answer : Answer) : Plan → Execution
  | .direct filter sort _ => .waiting (answer (.ofSort filter sort)).outcome
  | .merge op _ children => .joining op (allLaunched answer children) []

def allLaunched (answer : Answer) : List Plan → List Execution
  | [] => []
  | plan :: plans => plan.launched answer :: allLaunched answer plans

end

theorem launched_merge (answer : Answer) (op : BoolOp) (level : Nat)
    (children : List Plan) :
    (merge op level children).launched answer =
      .joining op (children.map (launched answer)) [] := by
  have hall : allLaunched answer children = children.map (launched answer) := by
    induction children with
    | nil => rfl
    | cons child children ih => rw [allLaunched, ih, List.map_cons]
  rw [launched, hall]

end Plan

namespace Execution

open Plan

variable {answer : Answer} {resumption : Resumption}

theorem evaluate_launched (answer : Answer) (plan : Plan) :
    (plan.launched answer).evaluate answer = plan.evaluate answer := by
  induction plan using Plan.induct with
  | direct filter sort level => rfl
  | merge op level children ih =>
      rw [launched_merge, evaluate_joining, evaluate_merge, List.map_map]
      exact congrArg _ (congrArg _ (List.map_congr_left ih))

/-- A wake changes nothing where no group is wide. -/
theorem wake_launched {plan : Plan} (hnarrow : plan.Narrow) (path : List Nat) :
    (wake path (plan.launched answer)).1 = plan.launched answer := by
  induction hnarrow generalizing path with
  | direct filter sort level => cases path <;> rfl
  | merge hwidth hchildren ih =>
      rename_i op level children
      rw [launched_merge]
      cases path with
      | nil => rfl
      | cons position path =>
          cases hchild : (children.map (launched answer))[position]? with
          | none => rw [wake, hchild]
          | some child =>
              obtain ⟨plan, hplan, rfl⟩ := List.mem_map.mp (List.mem_of_getElem? hchild)
              obtain ⟨hlt, hget⟩ := List.getElem?_eq_some_iff.mp hchild
              rw [wake_joining hchild, woken, isWide_map, hwidth, ih plan hplan path,
                ← hget, List.set_getElem_self]
              rfl

theorem resume_launched {plan : Plan} (hnarrow : plan.Narrow) {polled : Polled}
    (hpolled : polled.execution = plan.launched answer) :
    polled.resume = plan.launched answer := by
  rw [Polled.resume, hpolled]
  induction polled.wakes with
  | nil => rfl
  | cons path wakes ih => rw [List.foldr_cons, ih, wake_launched hnarrow path]

/-! ## The first poll -/

theorem queue_pollAll (poll : Execution → Traced Polled) (position : Nat)
    (children : List Execution) : (pollAll poll position children).value.queue = [] := by
  induction children generalizing position with
  | nil => rfl
  | cons child rest ih =>
      rw [pollAll]
      simp only [Traced.value_bind]
      split
      · rfl
      · exact ih (position + 1)

/-- The first poll of a narrow plan leaves the answers of all its queries. -/
theorem poll_planned_of_narrow {plan : Plan} (hnarrow : plan.Narrow)
    (hbranching : plan.Branching)
    (hsends : ∀ query ∈ plan.queries, ∃ reply, answer query = .sent reply)
    {depth : Nat} (hdepth : plan.depth ≤ depth) :
    (poll answer resumption depth (.planned plan)).value.execution =
      plan.launched answer := by
  induction hnarrow generalizing depth with
  | direct filter sort level =>
      obtain ⟨reply, hreply⟩ := hsends _ (List.mem_singleton_self _)
      rw [poll_direct, hreply, launched, hreply]
      rfl
  | merge hwidth hchildren ih =>
      rename_i op level plans
      cases depth with
      | zero => exact absurd hdepth (Nat.not_succ_le_zero _)
      | succ depth =>
          cases hbranching with
          | merge hne hbranching =>
              have hlow := Plan.allDepth_le_iff.mp (Nat.le_of_succ_le_succ hdepth)
              have heach : ∀ plan ∈ plans, ∀ query ∈ plan.queries,
                  ∃ reply, answer query = .sent reply :=
                fun plan hplan query hquery =>
                  hsends query (Plan.mem_queries_merge hplan hquery)
              have hopens : ∀ plan ∈ plans, Opens answer resumption plan
                  (poll answer resumption depth (.planned plan)) :=
                fun plan hplan => opens_poll (hlow plan hplan) (hbranching plan hplan)
                  ((hchildren plan hplan).orderly resumption) (heach plan hplan)
              have hopened := opened_pollAll hopens hwidth
              have hresults : results? (plans.map fun plan =>
                  (poll answer resumption depth (.planned plan)).value.execution) =
                  none := by
                obtain ⟨first, rest, rfl⟩ := List.exists_cons_of_ne_nil hne
                exact results?_cons_of_unfinished
                  (hopens first List.mem_cons_self).waits _
              rw [poll_merge, value_pollGroup, pollChildren, isWide_map, hwidth,
                if_neg Bool.false_ne_true, Round.outcome, hopened.failure,
                hopened.children_eq, hresults, queue_pollAll, launched_merge]
              exact congrArg (joining op · []) (List.map_congr_left fun plan hplan =>
                ih plan hplan (hbranching plan hplan) (heach plan hplan)
                  (hlow plan hplan))

/-! ## The second poll -/

/-- What a group merges once its children have come to a result. -/
theorem Round.ComesTo.closing_eq {round : Round}
    {result : Except RemoteError (List (List Record))} (hround : round.ComesTo result)
    (op : BoolOp) :
    round.closing op = completing op (result.map (NestedQuery.merge op)) := by
  rw [Round.closing]
  cases result with
  | error error =>
      have hfailure : round.failure = some error := hround
      rw [hfailure]
      rfl
  | ok lists =>
      obtain ⟨hfailure, hresults⟩ := hround
      rw [hfailure, hresults]
      rfl

/-- The next poll of a launched plan ends it and does its closing. -/
structure Ends (answer : Answer) (poll : Execution → Traced Polled) (plan : Plan) :
    Prop where
  settles : Settles answer poll (plan.launched answer)
  effects_eq : (poll (plan.launched answer)).effects = plan.closing answer

theorem effects_pollAll_launched {poll : Execution → Traced Polled} {plans : List Plan}
    (hends : ∀ plan ∈ plans, Ends answer poll plan) (position : Nat) :
    (pollAll poll position (plans.map (launched answer))).effects =
      allClosing answer plans := by
  induction plans generalizing position with
  | nil => rfl
  | cons plan rest ih =>
      obtain ⟨⟨hsettles, heffects⟩, hrest⟩ := List.forall_mem_cons.mp hends
      rw [Settles, evaluate_launched] at hsettles
      rw [List.map_cons, pollAll, allClosing]
      simp only [Traced.effects_bind, hsettles, heffects]
      cases plan.evaluate answer with
      | error error => exact Effects.append_empty _
      | ok records =>
          simp only [Traced.effects_bind, Traced.effects_pure, Effects.append_empty,
            ih hrest]

theorem ends_poll {plan : Plan} (hnarrow : plan.Narrow) {depth : Nat}
    (hdepth : plan.depth ≤ depth) : Ends answer (poll answer resumption depth) plan := by
  induction hnarrow generalizing depth with
  | direct filter sort level =>
      constructor
      · rw [Settles, launched, poll_waiting]
        cases (answer (.ofSort filter sort)).outcome <;> rfl
      · rw [launched, poll_waiting, closing]
        cases (answer (.ofSort filter sort)).outcome <;> rfl
  | merge hwidth hchildren ih =>
      rename_i op level plans
      cases depth with
      | zero => exact absurd hdepth (Nat.not_succ_le_zero _)
      | succ depth =>
          have hlow := Plan.allDepth_le_iff.mp (Nat.le_of_succ_le_succ hdepth)
          have hends : ∀ plan ∈ plans, Ends answer (poll answer resumption depth) plan :=
            fun plan hmem => ih plan hmem (hlow plan hmem)
          have hsettles : ∀ child ∈ plans.map (launched answer),
              Settles answer (poll answer resumption depth) child := by
            intro child hmem
            obtain ⟨plan, hplan, rfl⟩ := List.mem_map.mp hmem
            exact (hends plan hplan).settles
          have hround := comesTo_pollAll hsettles 0
          have hresult : (gather ((plans.map (launched answer)).map
              (Execution.evaluate answer))).map (NestedQuery.merge op) =
              (Plan.merge op level plans).evaluate answer := by
            rw [← evaluate_launched, launched_merge, evaluate_joining]
          have hgroup : pollChildren (poll answer resumption depth)
              (plans.map (launched answer)) [] =
              pollAll (poll answer resumption depth) 0 (plans.map (launched answer)) := by
            rw [pollChildren, isWide_map, hwidth]
            rfl
          constructor
          · rw [Settles, evaluate_launched, launched_merge, poll_joining,
              value_pollGroup, hgroup, hround.outcome_eq, hresult]
          · rw [launched_merge, poll_joining, effects_pollGroup, hgroup,
              hround.closing_eq, hresult, effects_pollAll_launched hends, closing,
              completion]

end Execution

namespace Plan

open Execution

/-- A plan without wide groups, none of whose queries is refused, comes to its
evaluation by its opening and then its closing. -/
theorem execute_of_narrow {answer : Answer} {plan : Plan} (resumption : Resumption)
    (hbranching : plan.Branching) (hnarrow : plan.Narrow)
    (hsends : ∀ query ∈ plan.queries, ∃ reply, answer query = .sent reply) :
    (plan.execute answer resumption).value = plan.evaluate answer ∧
      (plan.execute answer resumption).effects =
        plan.opening ++ plan.closing answer := by
  have horderly := hnarrow.orderly resumption
  have hopens := opens_poll (Nat.le_refl plan.depth) hbranching horderly hsends
  have hlaunched := @poll_planned_of_narrow answer resumption plan hnarrow hbranching
    hsends _ (Nat.le_refl plan.depth)
  have hless := work_poll_lt answer resumption (Nat.le_refl (planned plan).height)
    (.planned hbranching (Or.inl trivial)) rfl
  obtain ⟨polls, hpolls⟩ : ∃ polls, 2 * plan.remoteCalls = polls + 1 :=
    Nat.exists_eq_add_one_of_ne_zero (Nat.ne_zero_of_lt hless)
  refine ⟨(execute_of_orderly hbranching horderly hsends).1, ?_⟩
  have hwaits := hopens.waits
  rw [Plan.execute, hpolls, run]
  simp only [Traced.effects_bind, hopens.effects_eq]
  split
  · rename_i hended
    rw [hended] at hwaits
    cases hwaits
  · obtain ⟨hsettles, heffects⟩ :=
      @ends_poll answer resumption plan hnarrow _ (Nat.le_refl plan.depth)
    rw [Settles] at hsettles
    rw [resume_launched hnarrow hlaunched, run]
    simp only [Traced.effects_bind, heffects, hsettles, Traced.effects_pure,
      Effects.append_empty]

end Plan

end NestedQuery
