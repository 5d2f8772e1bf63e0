import NestedQuery.Proofs.Resolution.Waking

/-!
# Polls of live executions

A poll of a live execution leaves a live one.  A narrow group reaches all of its
children, and what they ask for is handed on.  A wide group keeps an invariant
while it works off its queue: a child outside the queue is reached by a wake.  It
stops with an empty queue, or it asks for another poll.

A poll goes into groups up to a depth, and the nesting of groups never grows
beyond the depth of the plan.
-/

namespace NestedQuery

namespace Plan

theorem allDepth_le_iff {plans : List Plan} {depth : Nat} :
    allDepth plans ≤ depth ↔ ∀ plan ∈ plans, plan.depth ≤ depth := by
  induction plans with
  | nil => simp [allDepth]
  | cons plan plans ih => rw [allDepth, Nat.max_le, ih, List.forall_mem_cons]

end Plan

namespace Execution

/-! ## Heights -/

mutual

/-- The number of groups that lie within one another. -/
def height : Execution → Nat
  | .planned plan => plan.depth
  | .waiting _ => 0
  | .joining _ children _ => allHeight children + 1
  | .finished _ => 0

def allHeight : List Execution → Nat
  | [] => 0
  | child :: children => max child.height (allHeight children)

end

theorem allHeight_le_iff {children : List Execution} {depth : Nat} :
    allHeight children ≤ depth ↔ ∀ child ∈ children, child.height ≤ depth := by
  induction children with
  | nil => simp [allHeight]
  | cons child children ih => rw [allHeight, Nat.max_le, ih, List.forall_mem_cons]

theorem height_joining_le_iff {op : BoolOp} {children : List Execution}
    {queue : List Nat} {depth : Nat} :
    (joining op children queue).height ≤ depth + 1 ↔
      ∀ child ∈ children, child.height ≤ depth := by
  rw [height, Nat.add_le_add_iff_right, allHeight_le_iff]

theorem height_merge_le_iff {op : BoolOp} {level : Nat} {plans : List Plan}
    {depth : Nat} :
    (planned (.merge op level plans)).height ≤ depth + 1 ↔
      ∀ child ∈ plans.map planned, child.height ≤ depth := by
  rw [height, Plan.depth, Nat.add_le_add_iff_right, Plan.allDepth_le_iff,
    List.forall_mem_map]
  rfl

theorem Step.height_le {answer : Answer} {before after : Execution}
    {effects : Effects} (hstep : Step answer before effects after) :
    after.height ≤ before.height := by
  induction hstep with
  | send hanswer => exact Nat.zero_le _
  | refuse hanswer => exact Nat.zero_le _
  | receive page => exact Nat.le_refl _
  | fail error => exact Nat.le_refl _
  | split op level plans queue =>
      apply height_joining_le_iff.mpr
      intro child hmem
      obtain ⟨plan, hplan, rfl⟩ := List.mem_map.mp hmem
      exact Plan.allDepth_le_iff.mp (Nat.le_refl _) plan hplan
  | @child op left right queue before after effects hstep ih =>
      have hbefore := allHeight_le_iff.mp
        (Nat.le_refl (allHeight (left ++ before :: right)))
      apply height_joining_le_iff.mpr
      intro child hmem
      rcases List.mem_append.mp hmem with hmem | hmem
      · exact hbefore child (List.mem_append_left _ hmem)
      · rcases List.mem_cons.mp hmem with rfl | hmem
        · exact Nat.le_trans ih
            (hbefore before (List.mem_append_right _ List.mem_cons_self))
        · exact hbefore child
            (List.mem_append_right _ (List.mem_cons_of_mem _ hmem))
  | requeue op children queue other => exact Nat.le_refl _
  | merge hresults => exact Nat.zero_le _
  | abort hmem => exact Nat.zero_le _

theorem Steps.height_le {answer : Answer} {before after : Execution}
    {effects : Effects} (hsteps : Steps answer before effects after) :
    after.height ≤ before.height := by
  induction hsteps with
  | refl execution => exact Nat.le_refl _
  | head hstep _ ih => exact Nat.le_trans ih hstep.height_le

/-- Induction along a poll that goes deep enough: a group is polled one level
deeper than its children. -/
@[elab_as_elim]
theorem height_induct
    {motive : ∀ depth (execution : Execution), execution.height ≤ depth → Prop}
    (direct : ∀ depth filter sort level hlow,
      motive depth (.planned (.direct filter sort level)) hlow)
    (waiting : ∀ depth reply hlow, motive depth (.waiting reply) hlow)
    (finished : ∀ depth result hlow, motive depth (.finished result) hlow)
    (merge : ∀ depth op level plans hlow,
      (∀ child ∈ plans.map planned, child.height ≤ depth) →
      (∀ child hchild, motive depth child hchild) →
      motive (depth + 1) (.planned (.merge op level plans)) hlow)
    (joining : ∀ depth op children queue hlow,
      (∀ child ∈ children, child.height ≤ depth) →
      (∀ child hchild, motive depth child hchild) →
      motive (depth + 1) (.joining op children queue) hlow)
    {depth : Nat} {execution : Execution} (hlow : execution.height ≤ depth) :
    motive depth execution hlow := by
  induction depth generalizing execution with
  | zero =>
      cases execution with
      | planned plan =>
          cases plan with
          | direct filter sort level => exact direct 0 filter sort level hlow
          | merge op level plans => exact absurd hlow (Nat.not_succ_le_zero _)
      | waiting reply => exact waiting 0 reply hlow
      | joining op children queue => exact absurd hlow (Nat.not_succ_le_zero _)
      | finished result => exact finished 0 result hlow
  | succ depth ih =>
      cases execution with
      | planned plan =>
          cases plan with
          | direct filter sort level => exact direct (depth + 1) filter sort level hlow
          | merge op level plans =>
              exact merge depth op level plans hlow (height_merge_le_iff.mp hlow)
                fun child => ih
      | waiting reply => exact waiting (depth + 1) reply hlow
      | joining op children queue =>
          exact joining depth op children queue hlow (height_joining_le_iff.mp hlow)
            fun child => ih
      | finished result => exact finished (depth + 1) result hlow

/-! ## Groups -/

/-- Polling keeps an execution live, whatever wakes are outstanding. -/
def Keeps (poll : Execution → Traced Polled) (execution : Execution) : Prop :=
  ∀ wakes : List Nat → Prop, Live True wakes execution →
    Live ((poll execution).value.again = true)
      (fun path => wakes path ∨ path ∈ (poll execution).value.wakes)
      (poll execution).value.execution

section Groups

variable {poll : Execution → Traced Polled}

/-- A group that has not ended is live if it is as a group. -/
theorem Round.live_outcome {round : Round} {op : BoolOp} {asked : Prop}
    {wakes : List Nat → Prop}
    (hjoining : round.failure = none → results? round.children = none →
      Live asked wakes (.joining op round.children round.queue)) :
    Live asked wakes (round.outcome op) := by
  rw [Round.outcome]
  cases hfailure : round.failure with
  | some error => exact .finished _
  | none =>
      cases hresults : results? round.children with
      | some lists => exact .finished _
      | none => exact hjoining hfailure hresults

theorem leadingFailure?_cons_of_ne {child : Execution} {children : List Execution}
    (hchild : ∀ error, child ≠ .finished (.error error))
    (hchildren : leadingFailure? children = none) :
    leadingFailure? (child :: children) = none := by
  cases child with
  | finished result =>
      cases result with
      | ok records => exact hchildren
      | error error => exact absurd rfl (hchild error)
  | planned plan => rfl
  | waiting reply => rfl
  | joining op children queue => rfl

/-- A round in which every child of a narrow group has been polled once. -/
structure Surveyed (poll : Execution → Traced Polled) (position : Nat)
    (children : List Execution) (round : Round) : Prop where
  children_eq : round.children = children.map fun child => (poll child).value.execution
  leading : leadingFailure? round.children = none
  again_eq : round.again = children.any fun child => (poll child).value.again
  wakes : ∀ index child, children[index]? = some child →
    ∀ path ∈ (poll child).value.wakes,
      (if path.isEmpty then path else (position + index) :: path) ∈ round.wakes

theorem surveyed_pollAll {position : Nat} {children : List Execution}
    (hfailure : (pollAll poll position children).value.failure = none) :
    Surveyed poll position children (pollAll poll position children).value := by
  induction children generalizing position with
  | nil =>
      refine ⟨rfl, rfl, rfl, ?_⟩
      intro index child hchild
      cases hchild
  | cons child rest ih =>
      rw [pollAll] at hfailure ⊢
      simp only [Traced.value_bind] at hfailure ⊢
      split at hfailure
      · cases hfailure
      · rename_i hgood
        have hrest := ih hfailure
        simp only [Traced.value_bind, Traced.value_pure]
        constructor
        · rw [List.map_cons, hrest.children_eq]
        · exact leadingFailure?_cons_of_ne hgood hrest.leading
        · rw [List.any_cons, hrest.again_eq]
        · intro index other hother path hpath
          dsimp only
          rw [List.mem_append]
          cases index with
          | zero =>
              cases hother
              left
              exact List.mem_map.mpr ⟨path, hpath, rfl⟩
          | succ index =>
              right
              have hwake := hrest.wakes index other hother path hpath
              rwa [Nat.add_assoc, Nat.add_comm 1] at hwake

/-- A poll of a narrow group reaches all children. -/
theorem live_pollAll {op : BoolOp} {children : List Execution} {queue : List Nat}
    {wakes : List Nat → Prop} (hlive : Live True wakes (.joining op children queue))
    (hnarrow : isWide children = false)
    (hpoll : ∀ child ∈ children, Keeps poll child)
    (hfailure : (pollAll poll 0 children).value.failure = none)
    (hresults : results? (pollAll poll 0 children).value.children = none) :
    Live ((pollAll poll 0 children).value.again = true)
      (fun path => wakes path ∨ path ∈ (pollAll poll 0 children).value.wakes)
      (.joining op (pollAll poll 0 children).value.children
        (pollAll poll 0 children).value.queue) := by
  have hsurvey := surveyed_pollAll hfailure
  generalize (pollAll poll 0 children).value = round at *
  have hnever : ∀ {P : Prop}, isWide round.children = true → P := by
    intro P hwide
    rw [hsurvey.children_eq, isWide_map, hnarrow] at hwide
    cases hwide
  have hpending : Pending round.children := ⟨hsurvey.leading, hresults⟩
  have hbefore : ∀ {position : Nat} {after : Execution},
      round.children[position]? = some after →
      ∃ child, children[position]? = some child ∧
        (poll child).value.execution = after := by
    intro position after hafter
    rw [hsurvey.children_eq, List.getElem?_map, Option.map_eq_some_iff] at hafter
    exact hafter
  have hwakes : ∀ {position : Nat} {child : Execution} {path : List Nat},
      children[position]? = some child → path ∈ (poll child).value.wakes →
      (if path.isEmpty then path else position :: path) ∈ round.wakes := by
    intro position child path hchild hpath
    have hwake := hsurvey.wakes position child hchild path hpath
    rwa [Nat.zero_add] at hwake
  cases hlive with
  | joining asks _ _ _ hchildren _ =>
      let calls (position : Nat) : Prop := ∃ child, children[position]? = some child ∧
        ((poll child).value.again = true ∨ [] ∈ (poll child).value.wakes)
      apply Live.joining calls hpending hnever hnever
      · intro position after hafter
        obtain ⟨child, hchild, rfl⟩ := hbefore hafter
        have hmem := List.mem_of_getElem? hchild
        apply (hpoll child hmem _ (hchildren position child hchild).ask).mono
        · rintro (hagain | hwoken | hwake)
          · exact Or.inl ⟨child, hchild, Or.inl hagain⟩
          · exact Or.inr (Or.inl hwoken)
          · exact Or.inl ⟨child, hchild, Or.inr hwake⟩
        · intro next path hpath
          exact hpath.imp_right fun hwake => @hwakes _ _ (next :: path) hchild hwake
      · -- The group is reached by whatever reaches a child that is not done.
        obtain ⟨position, after, hafter, hopen⟩ := hpending.exists_unfinished
        by_cases hcalls : calls position
        · obtain ⟨child, hchild, hagain | hwake⟩ := hcalls
          · left
            rw [hsurvey.again_eq, List.any_eq_true]
            exact ⟨child, List.mem_of_getElem? hchild, hagain⟩
          · exact Or.inr (Or.inl (Or.inr (hwakes hchild hwake)))
        · exact Or.inr (Or.inr ⟨position, after, hafter, hopen, hcalls⟩)

/-! ### Wide groups -/

/-- The invariant of a wide group at work: a child outside the queue is reached
by a wake, if it is not done. -/
structure Tended (depth : Nat) (wakes : List Nat → Prop) (round : Round) : Prop where
  queued : Queued round.children round.queue
  live : ∀ position child, round.children[position]? = some child →
    Live (position ∈ round.queue)
      (fun path => wakes (position :: path) ∨ position :: path ∈ round.wakes) child
  low : ∀ child ∈ round.children, child.height ≤ depth

theorem Queued.tail {children : List Execution} {position : Nat} {queue : List Nat}
    (hqueued : Queued children (position :: queue)) (after : Execution) :
    Queued (children.set position after) queue := by
  obtain ⟨hnew, hnodup⟩ := List.nodup_cons.mp hqueued.nodup
  refine ⟨hnodup, ?_⟩
  intro index hindex
  obtain ⟨child, hchild, hopen⟩ :=
    hqueued.unfinished index (List.mem_cons_of_mem _ hindex)
  refine ⟨child, ?_, hopen⟩
  rw [List.getElem?_set_ne]
  · exact hchild
  · rintro rfl
    exact hnew hindex

theorem Round.mem_queue_replace {round : Round} {position index : Nat}
    {queue : List Nat} (hqueue : round.queue = position :: queue)
    (hindex : index ∈ round.queue) (hne : index ≠ position) (polled : Polled) :
    index ∈ (round.replace position queue polled).queue := by
  rw [hqueue] at hindex
  have hrest := (List.mem_cons.mp hindex).resolve_left hne
  rw [Round.replace]
  dsimp only
  split
  · exact List.mem_append_left _ hrest
  · exact hrest

/-- A child that asks to be polled again goes back into the queue. -/
theorem Round.mem_queue_replace_self {polled : Polled} (hagain : polled.again = true)
    (hopen : polled.execution.isFinished = false) (round : Round) (position : Nat)
    (queue : List Nat) : position ∈ (round.replace position queue polled).queue := by
  simp [Round.replace, hagain, hopen]

theorem Tended.replace {depth : Nat} {wakes : List Nat → Prop} {round : Round}
    (htended : Tended depth wakes round) {position : Nat} {queue : List Nat}
    {child : Execution} (hqueue : round.queue = position :: queue)
    (hchild : round.children[position]? = some child) (hkeeps : Keeps poll child)
    (hlow : (poll child).value.execution.height ≤ depth) :
    Tended depth wakes (round.replace position queue (poll child).value) := by
  have hqueued := htended.queued
  rw [hqueue] at hqueued
  have hnew : position ∉ queue := (List.nodup_cons.mp hqueued.nodup).1
  have hlive := hkeeps _ (htended.live position child hchild).ask
  have hset := hqueued.tail (poll child).value.execution
  generalize (poll child).value = polled at *
  constructor
  · rw [Round.replace]
    dsimp only
    split
    · rename_i hrequeued
      rw [Bool.and_eq_true, Bool.not_eq_true'] at hrequeued
      exact hset.enqueue (set_of_child hchild _) hrequeued.2 hnew
    · exact hset
  · intro index other hother
    rcases child_of_set hother with ⟨rfl, rfl⟩ | ⟨hne, hother⟩
    · cases hopen : polled.execution.isFinished with
      | true =>
          obtain ⟨result, hresult⟩ := exists_result_of_isFinished hopen
          rw [hresult]
          exact .finished result
      | false =>
          apply hlive.mono
          · rintro (hagain | (hwoken | hwoken) | hwake)
            · exact Or.inl (Round.mem_queue_replace_self hagain hopen round _ queue)
            · exact Or.inr (Or.inl hwoken)
            · exact Or.inr (Or.inr (List.mem_append_left _ hwoken))
            · exact Or.inr (Or.inr
                (List.mem_append_right _ (List.mem_map_of_mem hwake)))
          · rintro next path ((hwoken | hwoken) | hwake)
            · exact Or.inl hwoken
            · exact Or.inr (List.mem_append_left _ hwoken)
            · exact Or.inr (List.mem_append_right _ (List.mem_map_of_mem hwake))
    · have hkept : index ∈ round.queue →
          index ∈ (round.replace position queue polled).queue :=
        fun hindex => Round.mem_queue_replace hqueue hindex hne polled
      apply (htended.live index other hother).mono
      · exact Or.imp hkept (Or.imp_right (List.mem_append_left _))
      · intro next path
        exact Or.imp_right (List.mem_append_left _)
  · intro other hmem
    rcases List.mem_or_eq_of_mem_set hmem with hmem | rfl
    · exact htended.low other hmem
    · exact hlow

/-- The number of children that are not done. -/
def Round.unfinished (round : Round) : Nat :=
  round.children.countP (!·.isFinished)

/-- What working off the queue up to the next child that is done comes to. -/
structure Worked (depth : Nat) (wakes : List Nat → Prop) (before : Round)
    (done : Bool) (after : Round) : Prop where
  tended : Tended depth wakes after
  count : after.unfinished + done.toNat = before.unfinished
  stopped : done = false →
    leadingFailure? after.children = leadingFailure? before.children ∧
      (after.queue = [] ∨ after.again = true)

/-- Polling a child that is not done finishes one child at most. -/
theorem Round.unfinished_replace {round : Round} {position : Nat} {child : Execution}
    (hchild : round.children[position]? = some child)
    (hopen : child.isFinished = false) (queue : List Nat) (polled : Polled) :
    (round.replace position queue polled).unfinished +
      polled.execution.isFinished.toNat = round.unfinished := by
  obtain ⟨hlt, hget⟩ := List.getElem?_eq_some_iff.mp hchild
  have hpos : 0 < round.children.countP (!·.isFinished) :=
    List.countP_pos_iff.mpr ⟨child, List.mem_of_getElem? hchild, by rw [hopen]; rfl⟩
  rw [unfinished, unfinished, Round.replace_children, List.countP_set hlt, hget, hopen]
  cases polled.execution.isFinished <;> simp <;> omega

theorem Tended.giveWay {depth : Nat} {wakes : List Nat → Prop} {round : Round}
    (htended : Tended depth wakes round) :
    Worked depth wakes round false { round with again := true } :=
  ⟨⟨htended.queued, htended.live, htended.low⟩, rfl, fun _ => ⟨rfl, Or.inr rfl⟩⟩

theorem worked_pollUntilDone {depth : Nat} {wakes : List Nat → Prop}
    (hpoll : ∀ child, child.height ≤ depth → Keeps poll child)
    (hheight : ∀ child, (poll child).value.execution.height ≤ child.height)
    (polls patience : Nat) {round : Round} (htended : Tended depth wakes round) :
    Worked depth wakes round (pollUntilDone poll polls patience round).value.1
      (pollUntilDone poll polls patience round).value.2 := by
  induction polls generalizing patience round with
  | zero => exact htended.giveWay
  | succ polls ih =>
      cases patience with
      | zero => exact htended.giveWay
      | succ patience =>
          rw [pollUntilDone]
          split
          · rename_i hqueue
            exact ⟨htended, rfl, fun _ => ⟨rfl, Or.inl hqueue⟩⟩
          · rename_i position queue hqueue
            obtain ⟨child, hchild, hopen⟩ := htended.queued.unfinished position
              (by rw [hqueue]; exact List.mem_cons_self)
            have hlow := htended.low child (List.mem_of_getElem? hchild)
            have hnext := htended.replace hqueue hchild (hpoll child hlow)
              (Nat.le_trans (hheight child) hlow)
            have hcount :=
              Round.unfinished_replace hchild hopen queue (poll child).value
            rw [hchild]
            simp only [Traced.value_bind]
            cases hdone : (poll child).value.execution.isFinished with
            | true =>
                rw [hdone] at hcount
                rw [if_pos rfl]
                exact ⟨hnext, hcount, fun hfalse => by cases hfalse⟩
            | false =>
                have hleading := (set_unfinished hchild hopen hdone).1
                rw [hdone] at hcount
                rw [if_neg Bool.false_ne_true]
                obtain ⟨hafter, hrest, hstopped⟩ := ih (if (poll child).value.again
                  then patience else patience + 1) hnext
                refine ⟨hafter, hrest.trans hcount, ?_⟩
                intro hfalse
                obtain ⟨hkept, hreason⟩ := hstopped hfalse
                exact ⟨hkept.trans hleading, hreason⟩

/-- A wide group whose queue has been worked off without a failure is done, or
its queue is empty, or it asks for another poll. -/
theorem tended_pollQueue {depth : Nat} {wakes : List Nat → Prop}
    (hpoll : ∀ child, child.height ≤ depth → Keeps poll child)
    (hheight : ∀ child, (poll child).value.execution.height ≤ child.height)
    {unfinished : Nat} {round : Round} (htended : Tended depth wakes round)
    (hcount : round.unfinished = unfinished)
    (hleading : leadingFailure? round.children = none)
    (hfailure : (pollQueue poll unfinished round).value.failure = none)
    (hresults : results? (pollQueue poll unfinished round).value.children = none) :
    Tended depth wakes (pollQueue poll unfinished round).value ∧
      Pending (pollQueue poll unfinished round).value.children ∧
      ((pollQueue poll unfinished round).value.queue = [] ∨
        (pollQueue poll unfinished round).value.again = true) := by
  induction unfinished generalizing round with
  | zero =>
      obtain ⟨position, child, hchild, hopen⟩ :=
        Pending.exists_unfinished ⟨hleading, hresults⟩
      have hall := List.countP_eq_zero.mp hcount child (List.mem_of_getElem? hchild)
      rw [hopen] at hall
      exact absurd rfl hall
  | succ unfinished ih =>
      have hworked := worked_pollUntilDone hpoll hheight (unfinished + 1) 2 htended
      rw [pollQueue] at hfailure hresults ⊢
      simp only [Traced.value_bind] at hfailure hresults ⊢
      generalize (pollUntilDone poll (unfinished + 1) 2 round).value = polled at *
      obtain ⟨done, later⟩ := polled
      obtain ⟨hafter, hsum, hstopped⟩ := hworked
      dsimp only at hafter hsum hstopped hfailure hresults ⊢
      cases done with
      | false =>
          rw [if_neg Bool.false_ne_true] at hfailure hresults ⊢
          obtain ⟨hkept, hreason⟩ := hstopped rfl
          exact ⟨hafter, ⟨hkept.trans hleading, hresults⟩, hreason⟩
      | true =>
          rw [if_pos rfl] at hfailure hresults ⊢
          cases hlater : leadingFailure? later.children with
          | some error =>
              simp only [hlater] at hfailure
              cases hfailure
          | none =>
              simp only [hlater] at hfailure hresults ⊢
              rw [hcount] at hsum
              exact ih hafter (Nat.succ.inj hsum) hlater hfailure hresults

/-- A poll of a wide group loses no child. -/
theorem live_pollQueue {depth : Nat} {op : BoolOp} {children : List Execution}
    {queue : List Nat} {wakes : List Nat → Prop}
    (hpoll : ∀ child, child.height ≤ depth → Keeps poll child)
    (hheight : ∀ child, (poll child).value.execution.height ≤ child.height)
    (hlive : Live True wakes (.joining op children queue))
    (hwide : isWide children = true)
    (hlow : ∀ child ∈ children, child.height ≤ depth) {round : Round}
    (hround : (pollQueue poll (children.countP (!·.isFinished))
      { children, queue }).value = round)
    (hfailure : round.failure = none) (hresults : results? round.children = none) :
    Live (round.again = true) (fun path => wakes path ∨ path ∈ round.wakes)
      (.joining op round.children round.queue) := by
  cases hlive with
  | joining asks hpending hqueued hasks hchildren _ =>
      have htended : Tended depth wakes { children, queue } := by
        refine ⟨hqueued hwide, ?_, hlow⟩
        intro position child hchild
        apply (hchildren position child hchild).mono
        · exact Or.imp (hasks hwide position).mp Or.inl
        · exact fun next path => Or.inl
      subst hround
      obtain ⟨hafter, hstill, hreason⟩ := tended_pollQueue hpoll hheight htended rfl
        hpending.1 hfailure hresults
      apply Live.joining (· ∈ _) hstill (fun _ => hafter.queued) (fun _ _ => Iff.rfl)
        hafter.live
      rcases hreason with hempty | hagain
      · obtain ⟨position, child, hchild, hopen⟩ := hstill.exists_unfinished
        refine Or.inr (Or.inr ⟨position, child, hchild, hopen, ?_⟩)
        rw [hempty]
        exact List.not_mem_nil
      · exact Or.inl hagain

/-- A poll keeps a group live if it keeps the children live. -/
theorem live_pollGroup {depth : Nat} {op : BoolOp} {children : List Execution}
    {queue : List Nat} {wakes : List Nat → Prop}
    (hpoll : ∀ child, child.height ≤ depth → Keeps poll child)
    (hheight : ∀ child, (poll child).value.execution.height ≤ child.height)
    (hlow : ∀ child ∈ children, child.height ≤ depth)
    (hlive : Live True wakes (.joining op children queue)) :
    Live ((pollGroup poll op children queue).value.again = true)
      (fun path => wakes path ∨
        path ∈ (pollGroup poll op children queue).value.wakes)
      (pollGroup poll op children queue).value.execution := by
  rw [value_pollGroup]
  apply Round.live_outcome
  rw [pollChildren]
  cases hwide : isWide children with
  | true => exact live_pollQueue hpoll hheight hlive hwide hlow rfl
  | false =>
      exact live_pollAll hlive hwide fun child hmem => hpoll child (hlow child hmem)

end Groups

/-! ## Polls -/

/-- A group that has just been split is live. -/
theorem live_split {op : BoolOp} {level : Nat} {plans : List Plan}
    (hplan : (Plan.merge op level plans).Branching) (wakes : List Nat → Prop) :
    Live True wakes (.joining op (plans.map .planned) (firstQueue plans)) := by
  cases hplan with
  | merge hne hplans =>
      obtain ⟨first, rest, rfl⟩ := List.exists_cons_of_ne_nil hne
      have hinside : ∀ {position : Nat} {child : Execution},
          ((first :: rest).map planned)[position]? = some child →
          ∃ plan ∈ first :: rest, position < (first :: rest).length ∧
            child = .planned plan := by
        intro position child hchild
        rw [List.getElem?_map, Option.map_eq_some_iff] at hchild
        obtain ⟨plan, hplan, rfl⟩ := hchild
        exact ⟨plan, List.mem_of_getElem? hplan,
          (List.getElem?_eq_some_iff.mp hplan).1, rfl⟩
      have hqueue : isWide ((first :: rest).map planned) = true →
          firstQueue (first :: rest) = List.range (first :: rest).length := by
        intro hwide
        rw [isWide_map] at hwide
        rw [firstQueue, if_pos hwide]
      apply Live.joining (· < (first :: rest).length)
      · exact ⟨rfl, rfl⟩
      · intro hwide
        rw [hqueue hwide]
        refine ⟨List.nodup_range, ?_⟩
        intro position hposition
        have hlt := List.mem_range.mp hposition
        refine ⟨.planned (first :: rest)[position], ?_, rfl⟩
        rw [List.getElem?_map, List.getElem?_eq_getElem hlt]
        rfl
      · intro hwide position
        rw [hqueue hwide, List.mem_range]
      · intro position child hchild
        obtain ⟨plan, hmem, hlt, rfl⟩ := hinside hchild
        exact .planned (hplans plan hmem) (Or.inl hlt)
      · exact Or.inl trivial

theorem live_delivered (resumption : Resumption) (delivery : Delivery)
    (wakes : List Nat → Prop) :
    Live ((delivered resumption delivery).value.again = true)
      (fun path => wakes path ∨ path ∈ (delivered resumption delivery).value.wakes)
      (delivered resumption delivery).value.execution := by
  cases delivery with
  | refused error => exact .finished _
  | sent reply =>
      apply Live.waiting
      cases resumption with
      | duringPoll => exact Or.inl rfl
      | afterPoll => exact Or.inr (Or.inr List.mem_cons_self)

/-- A poll that goes deep enough keeps an execution live. -/
theorem keeps_poll (answer : Answer) (resumption : Resumption) {depth : Nat}
    {execution : Execution} (hlow : execution.height ≤ depth) :
    Keeps (poll answer resumption depth) execution := by
  have hheight : ∀ depth child,
      (poll answer resumption depth child).value.execution.height ≤ child.height :=
    fun depth child => (steps_poll answer resumption depth child).height_le
  induction hlow using height_induct with
  | direct depth filter sort level =>
      intro wakes _
      rw [poll_direct]
      exact live_delivered resumption _ wakes
  | waiting depth reply =>
      intro wakes _
      rw [poll_waiting]
      cases reply <;> exact .finished _
  | finished depth result =>
      intro wakes _
      rw [poll_finished]
      exact .finished result
  | merge depth op level plans _ hplans ih =>
      intro wakes hlive
      rw [poll_merge]
      apply live_pollGroup ih (hheight depth) hplans
      cases hlive with
      | planned hplan _ => exact live_split hplan wakes
  | joining depth op children queue _ hchildren ih =>
      intro wakes hlive
      rw [poll_joining]
      exact live_pollGroup ih (hheight depth) hchildren hlive

/-- After a poll and the wakes it has left, an execution may be polled again. -/
theorem Ready.resume_poll {answer : Answer} {resumption : Resumption} {depth : Nat}
    {execution : Execution} (hready : Ready execution)
    (hlow : execution.height ≤ depth) :
    Ready (poll answer resumption depth execution).value.resume := by
  have hlive := keeps_poll answer resumption hlow _ hready
  simp only [false_or] at hlive
  exact hlive.resume

end Execution

end NestedQuery
