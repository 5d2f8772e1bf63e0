import NestedQuery.Proofs.Resolution.Narrow

/-!
# Wide groups at the top

A command polls again at once, so a wide group gives way after every second child.
Nothing stands beside a group that is the whole plan: it goes on where it has given
way, comes to its last child before it takes an answer, and then takes the answers
from left to right.  A plan whose only wide group is the plan itself is therefore
executed in order too.
-/

namespace NestedQuery

/-- Where waiting polls are asked for again at once, every plan does so. -/
theorem Plan.Branching.asksAtOnce {plan : Plan} (hbranching : plan.Branching) :
    plan.asksAtOnce .duringPoll = true := by
  induction hbranching with
  | direct filter sort level => rfl
  | merge hne _ ih =>
      obtain ⟨child, children, rfl⟩ := List.exists_cons_of_ne_nil hne
      rw [asksAtOnce_merge, List.any_cons, ih child List.mem_cons_self, Bool.true_or,
        Bool.or_true]

namespace Execution

/-! ## Polls that wake nothing -/

section Groups

variable {poll : Execution → Traced Polled}

theorem wakes_pollAll (hpoll : ∀ child, (poll child).value.wakes = [])
    (position : Nat) (children : List Execution) :
    (pollAll poll position children).value.wakes = [] := by
  induction children generalizing position with
  | nil => rfl
  | cons child rest ih =>
      rw [pollAll]
      simp only [Traced.value_bind, hpoll]
      split
      · rfl
      · exact ih (position + 1)

theorem wakes_pollUntilDone (hpoll : ∀ child, (poll child).value.wakes = [])
    (polls patience : Nat) {round : Round} (hround : round.wakes = []) :
    (pollUntilDone poll polls patience round).value.2.wakes = [] := by
  induction polls generalizing patience round with
  | zero => exact hround
  | succ polls ih =>
      cases patience with
      | zero => exact hround
      | succ patience =>
          rw [pollUntilDone]
          split
          · exact hround
          · split
            · exact hround
            · have hnext : ∀ position queue child,
                  (round.replace position queue (poll child).value).wakes = [] := by
                intro position queue child
                rw [Round.replace, hround, hpoll]
                rfl
              simp only [Traced.value_bind]
              split
              · exact hnext _ _ _
              · exact ih _ (hnext _ _ _)

theorem wakes_pollQueue (hpoll : ∀ child, (poll child).value.wakes = [])
    (unfinished : Nat) {round : Round} (hround : round.wakes = []) :
    (pollQueue poll unfinished round).value.wakes = [] := by
  induction unfinished generalizing round with
  | zero => exact hround
  | succ unfinished ih =>
      have hworked := wakes_pollUntilDone hpoll (unfinished + 1) 2 hround
      rw [pollQueue]
      simp only [Traced.value_bind]
      split
      · split
        · exact hworked
        · exact ih hworked
      · exact hworked

theorem wakes_pollGroup (hpoll : ∀ child, (poll child).value.wakes = [])
    (op : BoolOp) (children : List Execution) (queue : List Nat) :
    (pollGroup poll op children queue).value.wakes = [] := by
  rw [value_pollGroup, pollChildren]
  split
  · exact wakes_pollQueue hpoll _ rfl
  · exact wakes_pollAll hpoll 0 children

end Groups

theorem wakes_poll_direct (answer : Answer) (depth : Nat) (filter : Option Filter)
    (sort : Option ResolvedSort) (level : Nat) :
    (poll answer .duringPoll depth
      (.planned (.direct filter sort level))).value.wakes = [] := by
  rw [poll_direct]
  cases answer (.ofSort filter sort) <;> rfl

theorem wakes_poll_waiting (answer : Answer) (depth : Nat)
    (reply : Except RemoteError Page) :
    (poll answer .duringPoll depth (.waiting reply)).value.wakes = [] := by
  rw [poll_waiting]
  cases reply <;> rfl

/-- A poll that asks for another one at once leaves nothing to wake. -/
theorem wakes_poll (answer : Answer) (depth : Nat) (execution : Execution) :
    (poll answer .duringPoll depth execution).value.wakes = [] := by
  induction depth generalizing execution with
  | zero =>
      cases execution with
      | planned plan =>
          cases plan with
          | direct filter sort level => exact wakes_poll_direct answer 0 _ _ _
          | merge op level plans => rfl
      | waiting reply => exact wakes_poll_waiting answer 0 reply
      | joining op children queue => rfl
      | finished result => rfl
  | succ depth ih =>
      cases execution with
      | planned plan =>
          cases plan with
          | direct filter sort level => exact wakes_poll_direct answer (depth + 1) _ _ _
          | merge op level plans =>
              rw [poll_merge]
              exact wakes_pollGroup ih op _ _
      | waiting reply => exact wakes_poll_waiting answer (depth + 1) reply
      | joining op children queue => exact wakes_pollGroup ih op children queue
      | finished result => rfl

theorem resume_of_wakes {polled : Polled} (hwakes : polled.wakes = []) :
    polled.resume = polled.execution := by
  rw [Polled.resume, hwakes, List.foldr_nil]

/-! ## Working through the queue -/

section Spread

variable {answer : Answer} {poll : Execution → Traced Polled}

/-- The first poll of a plan leaves its answers, which the next poll takes, and asks
for that poll at once. -/
structure Alternates (answer : Answer) (poll : Execution → Traced Polled) (plan : Plan) :
    Prop where
  waits : (poll (.planned plan)).value.execution.isFinished = false
  settles : Settles answer poll (poll (.planned plan)).value.execution
  evaluate_eq :
    (poll (.planned plan)).value.execution.evaluate answer = plan.evaluate answer
  unsent_eq : (poll (.planned plan)).value.execution.unsent = []
  again : (poll (.planned plan)).value.again = true
  sent_eq : (poll (.planned plan)).effects.sent = plan.queries

/-- Some children of a wide group wait for their answers, the others have not been
polled and stand first in the queue. -/
structure Spread (answer : Answer) (poll : Execution → Traced Polled)
    (left : List Execution) (rest : List Plan) (round : Round) : Prop where
  entered : Entered left rest round
  left_waits : ∀ child ∈ left, child.isFinished = false
  settles : ∀ child ∈ left, Settles answer poll child
  unsent_eq : ∀ child ∈ left, child.unsent = []
  queued : Queued round.children round.queue
  complete : ∀ position child, round.children[position]? = some child →
    position ∈ round.queue
  failure : round.failure = none

theorem Spread.settling {left : List Execution} {round : Round}
    (hspread : Spread answer poll left [] round) : Settling answer poll round := by
  have hchildren := hspread.entered.children_eq
  rw [List.map_nil, List.append_nil] at hchildren
  refine ⟨hspread.queued, fun position child hchild _ =>
    hspread.complete position child hchild, ?_, hspread.failure⟩
  rw [hchildren]
  exact fun child hmem _ => hspread.settles child hmem

/-- The first plan of the rest has its turn. -/
theorem Spread.turn {left : List Execution} {plan : Plan} {rest : List Plan}
    {round : Round} (hspread : Spread answer poll left (plan :: rest) round)
    (hplan : Alternates answer poll plan) :
    ∃ queue, round.queue = left.length :: queue ∧
      round.children[left.length]? = some (.planned plan) ∧
      Spread answer poll (left ++ [(poll (.planned plan)).value.execution]) rest
        (round.replace left.length queue (poll (.planned plan)).value) := by
  obtain ⟨queue, hhead, hchild, hnext⟩ :=
    hspread.entered.turn (poll (.planned plan)).value
  have hqueued := hspread.queued
  rw [hhead] at hqueued
  have hnew : left.length ∉ queue := (List.nodup_cons.mp hqueued.nodup).1
  have hrequeued : (round.replace left.length queue (poll (.planned plan)).value).queue =
      queue ++ [left.length] := by
    rw [Round.replace, hplan.again, hplan.waits]
    rfl
  refine ⟨queue, hhead, hchild, hnext, ?_, ?_, ?_, ?_, ?_, hspread.failure⟩
  · rw [List.forall_mem_append, List.forall_mem_singleton]
    exact ⟨hspread.left_waits, hplan.waits⟩
  · rw [List.forall_mem_append, List.forall_mem_singleton]
    exact ⟨hspread.settles, hplan.settles⟩
  · rw [List.forall_mem_append, List.forall_mem_singleton]
    exact ⟨hspread.unsent_eq, hplan.unsent_eq⟩
  · rw [hrequeued, Round.replace_children]
    exact (hqueued.tail _).enqueue (set_of_child hchild _) hplan.waits hnew
  · intro position child hposition
    rw [hrequeued, List.mem_append, List.mem_singleton]
    rcases child_of_set hposition with ⟨rfl, -⟩ | ⟨hne, hother⟩
    · exact Or.inr rfl
    · have hmem := hspread.complete position child hother
      rw [hhead] at hmem
      exact Or.inl ((List.mem_cons.mp hmem).resolve_left hne)

theorem Spread.giveWay {left : List Execution} {rest : List Plan} {round : Round}
    (hspread : Spread answer poll left rest round) :
    Spread answer poll left rest { round with again := true } :=
  ⟨⟨hspread.entered.children_eq, hspread.entered.queue_eq⟩, hspread.left_waits,
    hspread.settles, hspread.unsent_eq, hspread.queued, hspread.complete,
    hspread.failure⟩

/-- What working off the queue comes to: the group gives way after some of the rest,
or all of the rest has been sent and a first answer has been taken. -/
inductive Advanced (answer : Answer) (poll : Execution → Traced Polled)
    (rest : List Plan) (round : Round) (polled : Traced (Bool × Round)) : Prop
  | gaveWay {first last : List Plan} {left : List Execution}
      (hrest : rest = first ++ last) (hdone : polled.value.1 = false)
      (hspread : Spread answer poll left last polled.value.2)
      (hsent : polled.effects.sent = first.flatMap Plan.queries)
  | settled (hdone : polled.value.1 = true)
      (hsettling : Settling answer poll polled.value.2)
      (hcount : polled.value.2.unfinished + 1 = round.unfinished)
      (hunsent : polled.value.2.children.flatMap unsent = [])
      (hsent : polled.effects.sent = rest.flatMap Plan.queries)

theorem Spread.idle {left : List Execution} {rest : List Plan} {round : Round}
    (hspread : Spread answer poll left rest round) :
    Advanced answer poll rest round (pure (false, { round with again := true })) :=
  .gaveWay (List.nil_append rest).symm rfl hspread.giveWay rfl

theorem flatMap_unsent_of_steps {op : BoolOp} {before after : List Execution}
    {queue other : List Nat} {effects : Effects}
    (hsteps : Steps answer (.joining op before queue) effects (.joining op after other))
    (hunsent : before.flatMap unsent = []) :
    effects.sent = [] ∧ after.flatMap unsent = [] := by
  obtain ⟨dropped, hperm, -⟩ := hsteps.exists_dropped
  rw [unsent_joining, unsent_joining, hunsent] at hperm
  have hnil := hperm.eq_nil
  rw [List.append_eq_nil_iff, List.append_eq_nil_iff] at hnil
  exact hnil.1

/-- A plan that alternates uses up one of the polls the group has before it gives
way. -/
theorem pollUntilDone_of_alternates {plan : Plan} (hplan : Alternates answer poll plan)
    {round : Round} {position : Nat} {queue : List Nat}
    (hhead : round.queue = position :: queue)
    (hchild : round.children[position]? = some (.planned plan)) (polls patience : Nat) :
    (Execution.pollUntilDone poll (polls + 1) (patience + 1) round).value =
        (Execution.pollUntilDone poll polls patience
          (round.replace position queue (poll (.planned plan)).value)).value ∧
      (Execution.pollUntilDone poll (polls + 1) (patience + 1) round).effects.sent =
        plan.queries ++ (Execution.pollUntilDone poll polls patience
          (round.replace position queue (poll (.planned plan)).value)).effects.sent := by
  simp only [Execution.pollUntilDone, hhead, hchild, Traced.value_bind,
    Traced.effects_bind, hplan.waits, hplan.again, Effects.sent_append, hplan.sent_eq]
  exact ⟨rfl, rfl⟩

theorem Advanced.cons {plan : Plan} {rest : List Plan} {round next : Round}
    {polled later : Traced (Bool × Round)} (hadvanced : Advanced answer poll rest next later)
    (hcount : next.unfinished = round.unfinished) (hvalue : polled.value = later.value)
    (hsent : polled.effects.sent = plan.queries ++ later.effects.sent) :
    Advanced answer poll (plan :: rest) round polled := by
  cases hadvanced with
  | gaveWay hsplit hdone hspread hqueries =>
      rename_i first last left
      have hrest : plan :: rest = plan :: first ++ last := by
        rw [hsplit, List.cons_append]
      apply Advanced.gaveWay hrest
      · rw [hvalue, hdone]
      · rw [hvalue]
        exact hspread
      · rw [hsent, hqueries, List.flatMap_cons]
  | settled hdone hsettling hless hunsent hqueries =>
      apply Advanced.settled
      · rw [hvalue, hdone]
      · rw [hvalue]
        exact hsettling
      · rw [hvalue, hless, hcount]
      · rw [hvalue]
        exact hunsent
      · rw [hsent, hqueries, List.flatMap_cons]

/-- Once all plans have had their turn, the group takes a first answer. -/
theorem Spread.settle
    (hsteps : ∀ child, Steps answer child (poll child).effects
      (poll child).value.execution)
    {left : List Execution} {round : Round} (hspread : Spread answer poll left [] round)
    (hne : round.children ≠ []) (polls patience : Nat) :
    (Execution.pollUntilDone poll (polls + 1) (patience + 1) round).value.2.children.map
        (evaluate answer) = round.children.map (evaluate answer) ∧
      Advanced answer poll [] round
        (Execution.pollUntilDone poll (polls + 1) (patience + 1) round) := by
  have hchildren := hspread.entered.children_eq
  rw [List.map_nil, List.append_nil] at hchildren
  obtain ⟨child, others, hcons⟩ := List.exists_cons_of_ne_nil hne
  have hchild : round.children[0]? = some child := by
    rw [hcons]
    rfl
  have hopen : child.isFinished = false := by
    apply hspread.left_waits
    rw [← hchildren, hcons]
    exact List.mem_cons_self
  obtain ⟨later, hvalue, hlater, hcount, hsame⟩ :=
    hspread.settling.pollUntilDone polls patience hchild hopen
  have hpolled := steps_pollUntilDone hsteps .and [] (polls + 1) (patience + 1) round
  have hunsent : round.children.flatMap unsent = [] := by
    rw [hchildren, List.flatMap_eq_nil_iff]
    exact hspread.unsent_eq
  obtain ⟨hsent, hnone⟩ := flatMap_unsent_of_steps hpolled hunsent
  rw [hvalue] at hnone ⊢
  refine ⟨hsame, .settled ?_ ?_ ?_ ?_ hsent⟩ <;> rw [hvalue]
  · exact hlater
  · exact hcount
  · exact hnone

theorem Spread.pollUntilDone
    (hsteps : ∀ child, Steps answer child (poll child).effects
      (poll child).value.execution)
    {left : List Execution} {rest : List Plan} {round : Round}
    (hspread : Spread answer poll left rest round) (hne : round.children ≠ [])
    (hrest : ∀ plan ∈ rest, Alternates answer poll plan) (polls patience : Nat) :
    (Execution.pollUntilDone poll polls patience round).value.2.children.map
        (evaluate answer) = round.children.map (evaluate answer) ∧
      Advanced answer poll rest round
        (Execution.pollUntilDone poll polls patience round) := by
  induction rest generalizing left round polls patience with
  | nil =>
      rcases polls with _ | polls
      · exact ⟨rfl, hspread.idle⟩
      · rcases patience with _ | patience
        · exact ⟨rfl, hspread.idle⟩
        · exact hspread.settle hsteps hne polls patience
  | cons plan rest ih =>
      rcases polls with _ | polls
      · exact ⟨rfl, hspread.idle⟩
      · rcases patience with _ | patience
        · exact ⟨rfl, hspread.idle⟩
        · obtain ⟨hplan, hlast⟩ := List.forall_mem_cons.mp hrest
          obtain ⟨queue, hhead, hchild, hnext⟩ := hspread.turn hplan
          obtain ⟨hvalue, hsent⟩ :=
            pollUntilDone_of_alternates hplan hhead hchild polls patience
          have hset : (round.replace left.length queue
              (poll (.planned plan)).value).children.map (evaluate answer) =
              round.children.map (evaluate answer) := by
            rw [Round.replace_children]
            exact map_set_of_eq hchild hplan.evaluate_eq
          have hkept : (round.replace left.length queue
              (poll (.planned plan)).value).children ≠ [] := by
            rw [Round.replace_children, Ne, List.set_eq_nil_iff]
            exact hne
          have hcount := Round.unfinished_replace hchild rfl queue
            (poll (.planned plan)).value
          rw [hplan.waits] at hcount
          obtain ⟨hsame, hadvanced⟩ := ih hnext hkept hlast polls patience
          refine ⟨?_, hadvanced.cons hcount hvalue hsent⟩
          rw [hvalue, hsame, hset]

theorem Spread.bare {left : List Execution} {rest : List Plan} {round : Round}
    (hspread : Spread answer poll left rest round) :
    Spread answer poll left rest { children := round.children, queue := round.queue } :=
  ⟨⟨hspread.entered.children_eq, hspread.entered.queue_eq⟩, hspread.left_waits,
    hspread.settles, hspread.unsent_eq, hspread.queued, hspread.complete, rfl⟩

theorem Spread.results?_eq_none {left : List Execution} {rest : List Plan}
    {round : Round} (hspread : Spread answer poll left rest round)
    (hne : round.children ≠ []) : results? round.children = none := by
  have hwaits := hspread.entered.waits hspread.left_waits
  obtain ⟨child, others, hchildren⟩ := List.exists_cons_of_ne_nil hne
  rw [hchildren] at hwaits ⊢
  exact results?_cons_of_unfinished (hwaits child List.mem_cons_self) others

theorem Spread.exists_unfinished {left : List Execution} {rest : List Plan}
    {round : Round} (hspread : Spread answer poll left rest round)
    (hne : round.children ≠ []) : ∃ unfinished, round.unfinished = unfinished + 1 := by
  obtain ⟨child, hmem⟩ := List.exists_mem_of_ne_nil _ hne
  have hwaits := hspread.entered.waits hspread.left_waits child hmem
  apply Nat.exists_eq_add_one_of_ne_zero
  rw [Round.unfinished, Ne, List.countP_eq_zero]
  intro hall
  apply hall child hmem
  rw [hwaits]
  rfl

/-- A poll of a wide group that has spread so far: it gives way after some more of
its children, or it ends with its evaluation and has sent the rest. -/
inductive Carried (answer : Answer) (poll : Execution → Traced Polled) (op : BoolOp)
    (rest : List Plan) (result : Except RemoteError (List Record))
    (polled : Traced Polled) : Prop
  | gaveWay {first last : List Plan} {left children : List Execution}
      {queue : List Nat} (hrest : rest = first ++ last)
      (hspread : Spread answer poll left last { children, queue })
      (hwide : isWide children = true)
      (hexecution : polled.value.execution = .joining op children queue)
      (heval : (joining op children queue).evaluate answer = result)
      (hsent : polled.effects.sent = first.flatMap Plan.queries)
  | ended (hexecution : polled.value.execution = .finished result)
      (hsent : polled.effects.sent = rest.flatMap Plan.queries)

/-- Once a first answer has been taken, the group takes the others. -/
theorem pollQueue_of_settled
    (hsteps : ∀ child, Steps answer child (poll child).effects
      (poll child).value.execution)
    {unfinished : Nat} {round later : Round}
    (hvalue : (Execution.pollUntilDone poll (unfinished + 1) 2 round).value =
      (true, later))
    (hsettling : Settling answer poll later) (hcount : later.unfinished = unfinished)
    (hunsent : later.children.flatMap unsent = []) :
    (pollQueue poll (unfinished + 1) round).value.ComesTo
        (gather (later.children.map (evaluate answer))) ∧
      (pollQueue poll (unfinished + 1) round).effects.sent =
        (Execution.pollUntilDone poll (unfinished + 1) 2 round).effects.sent := by
  rw [pollQueue]
  simp only [Traced.value_bind, Traced.effects_bind, hvalue, if_true,
    Effects.sent_append]
  cases hleading : leadingFailure? later.children with
  | some error =>
      rw [gather_of_leadingFailure? hleading]
      exact ⟨rfl, List.append_nil _⟩
  | none =>
      have hrest := steps_pollQueue hsteps .and [] unfinished later
      obtain ⟨hsent, -⟩ := flatMap_unsent_of_steps hrest hunsent
      refine ⟨comesTo_pollQueue hsettling hcount hleading, ?_⟩
      rw [hsent, List.append_nil]

theorem sent_closing (op : BoolOp) (round : Round) : (round.closing op).sent = [] := by
  rw [Round.closing]
  split <;> rfl

theorem Spread.pollGroup
    (hsteps : ∀ child, Steps answer child (poll child).effects
      (poll child).value.execution)
    (op : BoolOp) {left children : List Execution} {rest : List Plan}
    {queue : List Nat} (hspread : Spread answer poll left rest { children, queue })
    (hwide : isWide children = true)
    (hrest : ∀ plan ∈ rest, Alternates answer poll plan) :
    Carried answer poll op rest ((joining op children queue).evaluate answer)
      (Execution.pollGroup poll op children queue) := by
  have hne : children ≠ [] := by
    rintro rfl
    cases hwide
  obtain ⟨unfinished, hcount⟩ := hspread.exists_unfinished hne
  obtain ⟨hsame, hadvanced⟩ :=
    hspread.pollUntilDone hsteps hne hrest (unfinished + 1) 2
  have hvalue := value_pollGroup poll op children queue
  have heffects := effects_pollGroup poll op children queue
  rw [Round.unfinished] at hcount
  rw [pollChildren, if_pos hwide, hcount] at hvalue heffects
  cases hadvanced with
  | gaveWay hsplit hdone hlater hsent =>
      obtain ⟨hkept, hqueue⟩ := pollQueue_of_not_done (Prod.ext hdone rfl)
      generalize Execution.pollUntilDone poll (unfinished + 1) 2 { children, queue } =
        polled at *
      obtain ⟨⟨done, later⟩, effects⟩ := polled
      have hlast : later.children ≠ [] := by
        rw [Ne, ← List.map_eq_nil_iff, hsame, List.map_eq_nil_iff]
        exact hne
      have hresults := hlater.results?_eq_none hlast
      rw [hkept] at hvalue heffects
      rw [Round.outcome, hlater.failure, hresults] at hvalue
      apply Carried.gaveWay hsplit hlater.bare
      · rw [← isWide_map (evaluate answer), hsame, isWide_map]
        exact hwide
      · rw [hvalue]
      · rw [evaluate_joining, evaluate_joining, hsame]
      · rw [heffects, Effects.sent_append, sent_closing, List.append_nil, hqueue]
        exact hsent
  | settled hdone hsettling hless hunsent hsent =>
      have hfewer : (Execution.pollUntilDone poll (unfinished + 1) 2
          { children, queue }).value.2.unfinished = unfinished :=
        Nat.succ.inj (hless.trans hcount)
      obtain ⟨hcomes, hqueries⟩ := pollQueue_of_settled hsteps (Prod.ext hdone rfl)
        hsettling hfewer hunsent
      rw [hsame] at hcomes
      apply Carried.ended
      · rw [hvalue, evaluate_joining]
        exact hcomes.outcome_eq op
      · rw [heffects, Effects.sent_append, sent_closing, List.append_nil, hqueries,
          hsent]

end Spread

/-! ## Runs -/

/-- A narrow plan alternates. -/
theorem alternates_of_narrow {answer : Answer} {plan : Plan} {depth : Nat}
    (hnarrow : plan.Narrow) (hbranching : plan.Branching)
    (hsends : ∀ query ∈ plan.queries, ∃ reply, answer query = .sent reply)
    (hdepth : plan.depth ≤ depth) :
    Alternates answer (poll answer .duringPoll depth) plan := by
  have hopens := opens_poll hdepth hbranching (hnarrow.orderly .duringPoll) hsends
  have hlaunched := @poll_planned_of_narrow answer .duringPoll plan hnarrow hbranching
    hsends depth hdepth
  have hends := @ends_poll answer .duringPoll plan hnarrow depth hdepth
  constructor
  · exact hopens.waits
  · rw [hlaunched]
    exact hends.settles
  · exact hopens.evaluate_eq
  · exact hopens.launched.unsent_eq_nil
  · rw [hopens.again_eq, hbranching.asksAtOnce]
  · rw [hopens.effects_eq, Plan.sent_opening]

/-- Where a poll carries a wide group on, a run sends the rest and comes to the
result. -/
theorem run_of_carried {answer : Answer} {depth polls : Nat} {op : BoolOp}
    {rest : List Plan} {result : Except RemoteError (List Record)}
    {execution : Execution}
    (hcarried : Carried answer (poll answer .duringPoll depth) op rest result
      (poll answer .duringPoll (depth + 1) execution))
    (hrest : ∀ plan ∈ rest, Alternates answer (poll answer .duringPoll depth) plan)
    (hready : Ready execution) (hopen : execution.isFinished = false)
    (hlow : execution.height ≤ depth + 1) (hpolls : execution.work < polls) :
    (run answer .duringPoll (depth + 1) polls execution).value = result ∧
      (run answer .duringPoll (depth + 1) polls execution).effects.sent =
        rest.flatMap Plan.queries := by
  induction polls generalizing execution rest with
  | zero => exact absurd hpolls (Nat.not_lt_zero _)
  | succ polls ih =>
      rw [run]
      simp only [Traced.value_bind, Traced.effects_bind, Effects.sent_append,
        resume_of_wakes (wakes_poll answer _ _)]
      cases hcarried with
      | ended hexecution hsent =>
          rw [hexecution, hsent]
          exact ⟨rfl, List.append_nil _⟩
      | gaveWay hsplit hspread hwide hexecution heval hsent =>
          have hpoll := steps_poll answer .duringPoll (depth + 1) execution
          have hless := work_poll_lt answer .duringPoll hlow hready hopen
          have hnext := @Ready.resume_poll answer .duringPoll _ _ hready hlow
          have hheight := Nat.le_trans hpoll.height_le hlow
          rw [resume_of_wakes (wakes_poll answer _ _)] at hnext
          rw [hexecution] at hless hnext hheight ⊢
          rw [hsplit, List.forall_mem_append] at hrest
          have hgoes := hspread.pollGroup (steps_poll answer .duringPoll depth) op hwide
            hrest.2
          rw [heval] at hgoes
          obtain ⟨hvalue, hlater⟩ := ih hgoes hrest.2 hnext rfl hheight
            (Nat.lt_of_lt_of_le hless (Nat.le_of_lt_succ hpolls))
          refine ⟨hvalue, ?_⟩
          rw [hsent, hlater, hsplit, List.flatMap_append]

/-- The first poll of a wide group of plans that alternate carries it on. -/
theorem carried_poll_merge {answer : Answer} {depth : Nat} {op : BoolOp} {level : Nat}
    {plans : List Plan} (hwide : isWide plans = true)
    (hplans : ∀ plan ∈ plans, Alternates answer (poll answer .duringPoll depth) plan) :
    Carried answer (poll answer .duringPoll depth) op plans
      ((Plan.merge op level plans).evaluate answer)
      (poll answer .duringPoll (depth + 1) (.planned (.merge op level plans))) := by
  have hopen : ∀ position < plans.length, ∃ child,
      (plans.map planned)[position]? = some child ∧ child.isFinished = false := by
    intro position hlt
    refine ⟨planned plans[position], ?_, rfl⟩
    rw [List.getElem?_map, List.getElem?_eq_getElem hlt, Option.map_some]
  have hspread : Spread answer (poll answer .duringPoll depth) [] plans
      (firstRound plans) := by
    refine ⟨entered_firstRound plans, List.forall_mem_nil _, List.forall_mem_nil _,
      List.forall_mem_nil _, ⟨List.nodup_range, ?_⟩, ?_, rfl⟩
    · exact fun position hmem => hopen position (List.mem_range.mp hmem)
    · intro position child hchild
      obtain ⟨hlt, -⟩ := List.getElem?_eq_some_iff.mp hchild
      rw [firstRound, List.length_map] at hlt
      exact List.mem_range.mpr hlt
  have hcarried := hspread.pollGroup (steps_poll answer .duringPoll depth) op
    ((isWide_map planned plans).trans hwide) hplans
  have hsame : (joining op (plans.map planned) (List.range plans.length)).evaluate
      answer = (Plan.merge op level plans).evaluate answer := by
    rw [evaluate_joining, Plan.evaluate_merge, List.map_map]
    rfl
  rw [hsame] at hcarried
  rw [poll_merge, firstQueue, if_pos hwide]
  cases hcarried with
  | gaveWay hsplit hlater hwider hexecution heval hsent =>
      exact .gaveWay hsplit hlater hwider hexecution heval hsent
  | ended hexecution hsent => exact .ended hexecution hsent

end Execution

namespace Plan

open Execution

/-- No merge step below the first is wide. -/
inductive Shallow : Plan → Prop
  | direct (filter : Option Filter) (sort : Option ResolvedSort) (level : Nat) :
      Shallow (.direct filter sort level)
  | merge {op : BoolOp} {level : Nat} {children : List Plan}
      (hchildren : ∀ child ∈ children, Narrow child) :
      Shallow (.merge op level children)

theorem Narrow.asksAtOnce {plan : Plan} (hnarrow : plan.Narrow) :
    plan.asksAtOnce .afterPoll = false := by
  induction hnarrow with
  | direct filter sort level => rfl
  | merge hwidth _ ih =>
      rw [asksAtOnce_merge, hwidth, Bool.false_or, List.any_eq_false]
      intro child hmem
      rw [ih child hmem]
      exact Bool.false_ne_true

/-- Where no query asks for a poll at once, a shallow plan is orderly. -/
theorem Shallow.orderly {plan : Plan} (hshallow : plan.Shallow) :
    plan.Orderly .afterPoll := by
  cases hshallow with
  | direct filter sort level => exact .direct filter sort level
  | merge hchildren =>
      rename_i op level children
      apply Orderly.merge fun child hmem => (hchildren child hmem).orderly .afterPoll
      intro _
      have hnone : ∀ child ∈ children, ¬child.asksAtOnce .afterPoll = true := by
        intro child hmem hasks
        rw [(hchildren child hmem).asksAtOnce] at hasks
        cases hasks
      rw [List.countP_eq_zero.mpr hnone]
      exact Nat.zero_le 1

/-- A shallow plan none of whose queries is refused is executed in order. -/
theorem execute_of_shallow {answer : Answer} {plan : Plan} (resumption : Resumption)
    (hbranching : plan.Branching) (hshallow : plan.Shallow)
    (hsends : ∀ query ∈ plan.queries, ∃ reply, answer query = .sent reply) :
    (plan.execute answer resumption).value = plan.evaluate answer ∧
      (plan.execute answer resumption).effects.sent = plan.queries := by
  cases resumption with
  | afterPoll => exact execute_of_orderly hbranching hshallow.orderly hsends
  | duringPoll =>
      cases hshallow with
      | direct filter sort level =>
          exact execute_of_orderly hbranching (.direct filter sort level) hsends
      | merge hchildren =>
          rename_i op level children
          cases hwide : isWide children with
          | false =>
              have hnarrow : (merge op level children).Narrow := .merge hwide hchildren
              exact execute_of_orderly hbranching (hnarrow.orderly .duringPoll) hsends
          | true =>
              have hready : Ready (.planned (merge op level children)) :=
                .planned hbranching (Or.inl trivial)
              have halternate : ∀ child ∈ children, Alternates answer
                  (poll answer .duringPoll (allDepth children)) child := by
                intro child hmem
                cases hbranching with
                | merge hne hbranching =>
                    apply alternates_of_narrow (hchildren child hmem)
                      (hbranching child hmem)
                    · exact fun query hquery =>
                        hsends query (mem_queries_merge hmem hquery)
                    · exact Plan.allDepth_le_iff.mp (Nat.le_refl _) child hmem
              rw [queries_merge]
              exact run_of_carried (carried_poll_merge hwide halternate) halternate
                hready rfl (Nat.le_refl _) (Nat.lt_succ_self _)

end Plan

end NestedQuery
