import NestedQuery.Proofs.Resolution.Preservation
import Mathlib.Data.List.Induction

/-!
# No wake is lost

A poll may leave children that wait.  Each of them is still reached: it is in
the queue of its group, or a place inside it will be woken after the poll.  The
predicate `Live` says so of a whole execution, given whether the execution has
asked for another poll and which places are to be woken.  A poll of a live
execution leaves a live one, and a wake moves its place into the queues of the
groups around it.  With all wakes done, every unfinished child of a wide group
is in its queue.
-/

namespace NestedQuery

namespace Execution

/-! ## Groups that are not done -/

theorem exists_result_of_isFinished {execution : Execution}
    (hfinished : execution.isFinished = true) :
    ∃ result, execution = .finished result := by
  cases execution with
  | finished result => exact ⟨result, rfl⟩
  | planned plan => cases hfinished
  | waiting reply => cases hfinished
  | joining op children queue => cases hfinished

theorem child_of_set {children : List Execution} {position index : Nat}
    {after child : Execution}
    (hchild : (children.set position after)[index]? = some child) :
    index = position ∧ child = after ∨
      index ≠ position ∧ children[index]? = some child := by
  rw [List.getElem?_set] at hchild
  split at hchild
  · rename_i heq
    split at hchild
    · exact Or.inl ⟨heq.symm, (Option.some.inj hchild).symm⟩
    · cases hchild
  · rename_i hne
    exact Or.inr ⟨Ne.symm hne, hchild⟩

theorem set_of_child {children : List Execution} {position : Nat}
    {before : Execution} (hchild : children[position]? = some before)
    (after : Execution) : (children.set position after)[position]? = some after := by
  obtain ⟨hlt, -⟩ := List.getElem?_eq_some_iff.mp hchild
  exact List.getElem?_set_self hlt

/-- The first child without records is unfinished. -/
def Pending (children : List Execution) : Prop :=
  leadingFailure? children = none ∧ results? children = none

theorem leadingFailure?_cons_of_unfinished {child : Execution}
    (hchild : child.isFinished = false) (children : List Execution) :
    leadingFailure? (child :: children) = none := by
  cases child with
  | finished result => cases hchild
  | planned plan => rfl
  | waiting reply => rfl
  | joining op children queue => rfl

theorem results?_cons_of_unfinished {child : Execution}
    (hchild : child.isFinished = false) (children : List Execution) :
    results? (child :: children) = none := by
  cases child with
  | finished result => cases hchild
  | planned plan => rfl
  | waiting reply => rfl
  | joining op children queue => rfl

theorem Pending.exists_unfinished {children : List Execution}
    (hpending : Pending children) :
    ∃ (position : Nat) (child : Execution), children[position]? = some child ∧
      child.isFinished = false := by
  obtain ⟨hleading, hresults⟩ := hpending
  induction children with
  | nil => cases hresults
  | cons child children ih =>
      cases hchild : child.isFinished with
      | false => exact ⟨0, child, rfl, hchild⟩
      | true =>
          obtain ⟨result, rfl⟩ := exists_result_of_isFinished hchild
          cases result with
          | error error => cases hleading
          | ok records =>
              rw [results?, Option.map_eq_none_iff] at hresults
              obtain ⟨position, other, hother, hopen⟩ := ih hleading hresults
              exact ⟨position + 1, other, hother, hopen⟩

/-- Exchanging an unfinished child for another one changes neither the leading
failure nor the results. -/
theorem set_unfinished {children : List Execution} {position : Nat}
    {before after : Execution} (hchild : children[position]? = some before)
    (hbefore : before.isFinished = false) (hafter : after.isFinished = false) :
    leadingFailure? (children.set position after) = leadingFailure? children ∧
      results? (children.set position after) = results? children := by
  induction children generalizing position with
  | nil => cases hchild
  | cons child children ih =>
      cases position with
      | zero =>
          cases hchild
          rw [List.set_cons_zero, leadingFailure?_cons_of_unfinished hafter,
            leadingFailure?_cons_of_unfinished hbefore,
            results?_cons_of_unfinished hafter, results?_cons_of_unfinished hbefore]
          exact ⟨rfl, rfl⟩
      | succ position =>
          obtain ⟨hleading, hresults⟩ := ih hchild
          rw [List.set_cons_succ]
          cases child with
          | finished result =>
              cases result with
              | error error => exact ⟨rfl, rfl⟩
              | ok records => exact ⟨hleading, congrArg (Option.map _) hresults⟩
          | planned plan => exact ⟨rfl, rfl⟩
          | waiting reply => exact ⟨rfl, rfl⟩
          | joining op children queue => exact ⟨rfl, rfl⟩

theorem Pending.set {children : List Execution} {position : Nat}
    {before after : Execution} (hpending : Pending children)
    (hchild : children[position]? = some before)
    (hbefore : before.isFinished = false) (hafter : after.isFinished = false) :
    Pending (children.set position after) := by
  obtain ⟨hleading, hresults⟩ := set_unfinished hchild hbefore hafter
  exact ⟨hleading.trans hpending.1, hresults.trans hpending.2⟩

/-- The queue lists positions of unfinished children, each once. -/
structure Queued (children : List Execution) (queue : List Nat) : Prop where
  nodup : queue.Nodup
  unfinished : ∀ position ∈ queue, ∃ child, children[position]? = some child ∧
    child.isFinished = false

/-! ## Live executions -/

/-- Every waiting part of an execution is reached by a poll or by a wake.  The
execution is itself reached if it has asked for a poll, if it is to be woken, or
if a child that does not ask is reached by a wake. -/
inductive Live : Prop → (List Nat → Prop) → Execution → Prop
  | finished {asked : Prop} {wakes : List Nat → Prop}
      (result : Except RemoteError (List Record)) :
      Live asked wakes (.finished result)
  | planned {asked : Prop} {wakes : List Nat → Prop} {plan : Plan}
      (hplan : plan.Branching) (hasked : asked ∨ wakes []) :
      Live asked wakes (.planned plan)
  | waiting {asked : Prop} {wakes : List Nat → Prop}
      (reply : Except RemoteError Page) (hasked : asked ∨ wakes []) :
      Live asked wakes (.waiting reply)
  | joining {asked : Prop} {wakes : List Nat → Prop} {op : BoolOp}
      {children : List Execution} {queue : List Nat} (asks : Nat → Prop)
      (hpending : Pending children)
      (hqueued : isWide children = true → Queued children queue)
      (hasks : isWide children = true → ∀ position, asks position ↔ position ∈ queue)
      (hchildren : ∀ position child, children[position]? = some child →
        Live (asks position) (fun path => wakes (position :: path)) child)
      (hasked : asked ∨ wakes [] ∨ ∃ position child,
        children[position]? = some child ∧ child.isFinished = false ∧
          ¬asks position) :
      Live asked wakes (.joining op children queue)

namespace Live

theorem mono {asked asked' : Prop} {wakes wakes' : List Nat → Prop}
    {execution : Execution} (hlive : Live asked wakes execution)
    (hroot : asked ∨ wakes [] → asked' ∨ wakes' [])
    (hbelow : ∀ position path, wakes (position :: path) →
      wakes' (position :: path)) : Live asked' wakes' execution := by
  induction hlive generalizing asked' wakes' with
  | finished result => exact .finished result
  | planned hplan hasked => exact .planned hplan (hroot hasked)
  | waiting reply hasked => exact .waiting reply (hroot hasked)
  | joining asks hpending hqueued hasks hchildren hasked ih =>
      refine .joining asks hpending hqueued hasks (fun position child hchild => ?_) ?_
      · exact ih position child hchild
          (Or.imp_right (hbelow position []))
          (fun next path => hbelow position (next :: path))
      · rw [← or_assoc] at hasked ⊢
        exact hasked.imp_left hroot

theorem ask {asked : Prop} {wakes : List Nat → Prop} {execution : Execution}
    (hlive : Live asked wakes execution) : Live True wakes execution :=
  hlive.mono (Or.imp_left fun _ => trivial) fun _ _ => id

/-- An execution that no wake reaches is finished or has asked. -/
theorem asked_of_unwoken {asked : Prop} {execution : Execution}
    (hlive : Live asked (fun _ => False) execution)
    (hopen : execution.isFinished = false) : asked := by
  generalize hnone : (fun _ : List Nat => False) = wakes at hlive
  induction hlive with
  | finished result => cases hopen
  | planned hplan hasked =>
      subst hnone
      exact hasked.resolve_right id
  | waiting reply hasked =>
      subst hnone
      exact hasked.resolve_right id
  | joining asks hpending hqueued hasks hchildren hasked ih =>
      subst hnone
      rcases hasked with hasked | hwoken | ⟨position, child, hchild, hopen, hsilent⟩
      · exact hasked
      · exact hwoken.elim
      · exact absurd (ih position child hchild hopen rfl) hsilent

end Live

/-- An execution that may be polled: no wake is outstanding. -/
def Ready (execution : Execution) : Prop := Live True (fun _ => False) execution

theorem Ready.child {op : BoolOp} {children : List Execution} {queue : List Nat}
    (hready : Ready (.joining op children queue)) {child : Execution}
    (hmem : child ∈ children) : Ready child := by
  cases hready with
  | joining asks hpending hqueued hasks hchildren hasked =>
      obtain ⟨position, hposition⟩ := List.mem_iff_getElem?.mp hmem
      exact (hchildren position child hposition).ask

theorem Ready.pending {op : BoolOp} {children : List Execution} {queue : List Nat}
    (hready : Ready (.joining op children queue)) : Pending children := by
  cases hready with
  | joining asks hpending hqueued hasks hchildren hasked => exact hpending

/-- All unfinished children of a wide group are in its queue, each once. -/
theorem Ready.queue {op : BoolOp} {children : List Execution} {queue : List Nat}
    (hready : Ready (.joining op children queue)) (hwide : isWide children = true) :
    queue.Nodup ∧ ∀ position, position ∈ queue ↔
      ∃ child, children[position]? = some child ∧ child.isFinished = false := by
  cases hready with
  | joining asks hpending hqueued hasks hchildren hasked =>
      refine ⟨(hqueued hwide).nodup, fun position =>
        ⟨(hqueued hwide).unfinished position, ?_⟩⟩
      rintro ⟨child, hchild, hopen⟩
      exact (hasks hwide position).mp
        ((hchildren position child hchild).asked_of_unwoken hopen)

/-! ## Wakes -/

theorem isFinished_wake (path : List Nat) (execution : Execution) :
    (wake path execution).1.isFinished = execution.isFinished := by
  cases path with
  | nil => rfl
  | cons position path =>
      cases execution with
      | joining op children queue =>
          rw [wake]
          split
          · rfl
          · dsimp only
            split
            · rfl
            · split <;> rfl
      | planned plan => rfl
      | waiting reply => rfl
      | finished result => rfl

theorem wake_finished (path : List Nat) (result : Except RemoteError (List Record)) :
    (wake path (.finished result)).1 = .finished result := by
  cases path <;> rfl

/-- A child that takes a wake leaves the group pending. -/
theorem Pending.wake {children : List Execution} (hpending : Pending children)
    {position : Nat} {child : Execution} (hchild : children[position]? = some child)
    (path : List Nat) :
    Pending (children.set position (Execution.wake path child).1) := by
  cases hopen : child.isFinished with
  | false =>
      exact hpending.set hchild hopen ((isFinished_wake path child).trans hopen)
  | true =>
      obtain ⟨result, rfl⟩ := exists_result_of_isFinished hopen
      obtain ⟨hlt, hget⟩ := List.getElem?_eq_some_iff.mp hchild
      rw [wake_finished, ← hget, List.set_getElem_self]
      exact hpending

theorem Queued.set {children : List Execution} {queue : List Nat}
    (hqueued : Queued children queue) {position : Nat} {before after : Execution}
    (hchild : children[position]? = some before)
    (hsame : after.isFinished = before.isFinished) :
    Queued (children.set position after) queue := by
  refine ⟨hqueued.nodup, fun index hindex => ?_⟩
  obtain ⟨child, hget, hopen⟩ := hqueued.unfinished index hindex
  by_cases heq : index = position
  · subst heq
    rw [hchild] at hget
    cases hget
    exact ⟨after, set_of_child hchild after, hsame.trans hopen⟩
  · refine ⟨child, ?_, hopen⟩
    rw [List.getElem?_set_ne (Ne.symm heq)]
    exact hget

theorem Queued.enqueue {children : List Execution} {queue : List Nat}
    (hqueued : Queued children queue) {position : Nat} {child : Execution}
    (hchild : children[position]? = some child) (hopen : child.isFinished = false)
    (hnew : position ∉ queue) : Queued children (queue ++ [position]) := by
  constructor
  · refine List.Nodup.append hqueued.nodup (List.nodup_singleton position) ?_
    rw [List.disjoint_singleton]
    exact hnew
  · intro index hindex
    rcases List.mem_append.mp hindex with hindex | hindex
    · exact hqueued.unfinished index hindex
    · rw [List.mem_singleton] at hindex
      subst hindex
      exact ⟨child, hchild, hopen⟩

theorem isWide_map {A B : Type} (f : A → B) (children : List A) :
    isWide (children.map f) = isWide children := by
  rw [isWide, isWide, List.length_map]

theorem isWide_set (children : List Execution) (position : Nat)
    (after : Execution) :
    isWide (children.set position after) = isWide children := by
  rw [isWide, isWide, List.length_set]

/-- A group in which one child has changed is live if that child is. -/
theorem Live.joining_set {asked : Prop} {wakes : List Nat → Prop} {op : BoolOp}
    {children : List Execution} {queue : List Nat} {position : Nat}
    {before after : Execution} {asks : Nat → Prop} (calls : Prop)
    (hchild : children[position]? = some before)
    (hsame : after.isFinished = before.isFinished)
    (hpending : Pending (children.set position after))
    (hqueued : isWide children = true → Queued (children.set position after) queue)
    (hasks : isWide children = true → ∀ index,
      (if index = position then calls else asks index) ↔ index ∈ queue)
    (hafter : Live calls (fun path => wakes (position :: path)) after)
    (hothers : ∀ index child, index ≠ position → children[index]? = some child →
      Live (asks index) (fun path => wakes (index :: path)) child)
    (hasked : asked ∨ wakes [] ∨ ∃ index child, children[index]? = some child ∧
      child.isFinished = false ∧
      ¬(if index = position then calls else asks index)) :
    Live asked wakes (.joining op (children.set position after) queue) := by
  refine .joining (fun index => if index = position then calls else asks index)
    hpending ?_ ?_ ?_ ?_
  · rw [isWide_set]
    exact hqueued
  · rw [isWide_set]
    exact hasks
  · intro index child hget
    rcases child_of_set hget with ⟨rfl, rfl⟩ | ⟨hne, hget⟩
    · rw [if_pos rfl]
      exact hafter
    · rw [if_neg hne]
      exact hothers index child hne hget
  · refine hasked.imp_right (Or.imp_right ?_)
    rintro ⟨index, child, hget, hopen, hsilent⟩
    by_cases heq : index = position
    · subst heq
      rw [hchild] at hget
      cases hget
      exact ⟨index, after, set_of_child hchild after, hsame.trans hopen, hsilent⟩
    · refine ⟨index, child, ?_, hopen, hsilent⟩
      rw [List.getElem?_set_ne (Ne.symm heq)]
      exact hget

/-- What a group becomes when the child at a position has taken a wake. -/
def woken (op : BoolOp) (children : List Execution) (queue : List Nat)
    (position : Nat) (child : Execution × Bool) : Execution × Bool :=
  if isWide children = false then
    (.joining op (children.set position child.1) queue, child.2)
  else if child.2 = true ∧ child.1.isFinished = false ∧ position ∉ queue then
    (.joining op (children.set position child.1) (queue ++ [position]), true)
  else (.joining op (children.set position child.1) queue, false)

theorem wake_joining {op : BoolOp} {children : List Execution} {queue path : List Nat}
    {position : Nat} {child : Execution} (hchild : children[position]? = some child) :
    wake (position :: path) (.joining op children queue) =
      woken op children queue position (wake path child) := by
  rw [wake, hchild, woken, ← isWide_set children position (wake path child).1]
  simp only [Bool.not_eq_true', Bool.and_eq_true, and_assoc, List.contains_eq_mem,
    decide_eq_false_iff_not]

theorem exists_queue_woken (op : BoolOp) (children : List Execution)
    (queue : List Nat) (position : Nat) (child : Execution × Bool) :
    ∃ other, (woken op children queue position child).1 =
      .joining op (children.set position child.1) other := by
  rw [woken]
  split
  · exact ⟨queue, rfl⟩
  · split
    · exact ⟨queue ++ [position], rfl⟩
    · exact ⟨queue, rfl⟩

section Woken

variable {asked : Prop} {wakes : List Nat → Prop} (op : BoolOp)
variable {children : List Execution} {queue : List Nat} {position : Nat}
variable {before after : Execution} {told : Bool} {asks : Nat → Prop}

variable
  (hafter : Live (asks position ∨ told = true)
    (fun path => wakes (position :: path)) after)
  (hchild : children[position]? = some before)
  (hsame : after.isFinished = before.isFinished)
  (hpending : Pending (children.set position after))
  (hqueued : isWide children = true → Queued children queue)
  (hasks : isWide children = true → ∀ index, asks index ↔ index ∈ queue)
  (hothers : ∀ index child, index ≠ position → children[index]? = some child →
    Live (asks index) (fun path => wakes (index :: path)) child)
  (hasked : asked ∨ wakes [] ∨ ∃ index child, children[index]? = some child ∧
    child.isFinished = false ∧ ¬asks index)

include hafter hchild hsame hpending hothers hasked in
/-- A narrow group has asked if its child has. -/
theorem live_woken_narrow (hnarrow : isWide children = false) :
    Live (asked ∨ told = true) wakes
      (.joining op (children.set position after) queue) := by
  have hnever : ∀ {P : Prop}, isWide children = true → P := by
    intro P hwide
    rw [hnarrow] at hwide
    cases hwide
  apply Live.joining_set (asks position ∨ told = true) hchild hsame hpending hnever
    hnever hafter hothers
  cases told with
  | true => exact Or.inl (Or.inr rfl)
  | false =>
      apply hasked.imp Or.inl
      apply Or.imp_right
      rintro ⟨index, child, hget, hopen, hsilent⟩
      refine ⟨index, child, hget, hopen, ?_⟩
      by_cases heq : index = position
      · subst heq
        rw [if_pos rfl]
        simpa using hsilent
      · rwa [if_neg heq]

include hafter hchild hsame hpending hqueued hasks hothers in
/-- A wide group that takes its child into the queue asks for a poll. -/
theorem live_woken_queued (hwide : isWide children = true)
    (hopen : after.isFinished = false) (hnew : position ∉ queue) :
    Live True wakes
      (.joining op (children.set position after) (queue ++ [position])) := by
  have hlater := ((hqueued hwide).set hchild hsame).enqueue
    (set_of_child hchild after) hopen hnew
  apply Live.joining_set True hchild hsame hpending (fun _ => hlater) _ hafter.ask
    hothers (Or.inl trivial)
  intro _ index
  rw [List.mem_append, List.mem_singleton]
  by_cases heq : index = position
  · rw [if_pos heq]
    exact iff_of_true trivial (Or.inr heq)
  · rw [if_neg heq, hasks hwide]
    exact (or_iff_left heq).symm

include hafter hchild hsame hpending hqueued hasks hothers hasked in
/-- A wide group need not take in a child that has not asked, is done or is in the
queue already. -/
theorem live_woken_unqueued (hwide : isWide children = true)
    (hneedless : told = true → after.isFinished = false → position ∈ queue) :
    Live asked wakes (.joining op (children.set position after) queue) := by
  have hcalls : ∀ index, (if index = position then asks position else asks index) ↔
      asks index := by
    intro index
    by_cases heq : index = position
    · rw [if_pos heq, heq]
    · rw [if_neg heq]
  have hlater : Live (asks position) (fun path => wakes (position :: path)) after := by
    cases hopen : after.isFinished with
    | true =>
        obtain ⟨result, rfl⟩ := exists_result_of_isFinished hopen
        exact .finished result
    | false =>
        apply hafter.mono _ (fun _ _ => id)
        apply Or.imp_left
        rintro (hcalled | htold)
        · exact hcalled
        · exact (hasks hwide position).mpr (hneedless htold hopen)
  apply Live.joining_set (asks position) hchild hsame hpending
    (fun hwide => (hqueued hwide).set hchild hsame)
    (fun hwide index => (hcalls index).trans (hasks hwide index)) hlater hothers
  simp only [hcalls]
  exact hasked

include hafter hchild hsame hpending hqueued hasks hothers hasked in
/-- A group takes over the wake of its child: it has asked if that is called for. -/
theorem live_woken :
    Live (asked ∨ (woken op children queue position (after, told)).2 = true) wakes
      (woken op children queue position (after, told)).1 := by
  rw [woken]
  dsimp only
  split
  · rename_i hnarrow
    exact live_woken_narrow op hafter hchild hsame hpending hothers hasked hnarrow
  · rename_i hwide
    rw [Bool.not_eq_false] at hwide
    split
    · rename_i htaken
      have hlive := live_woken_queued op hafter hchild hsame hpending hqueued hasks
        hothers hwide htaken.2.1 htaken.2.2
      exact hlive.mono (Or.imp_left fun _ => Or.inr rfl) fun _ _ => id
    · rename_i hleft
      have hneedless : told = true → after.isFinished = false → position ∈ queue := by
        intro htold hopen
        by_contra hnew
        exact hleft ⟨htold, hopen, hnew⟩
      have hlive := live_woken_unqueued op hafter hchild hsame hpending hqueued hasks
        hothers hasked hwide hneedless
      exact hlive.mono (Or.imp_left Or.inl) fun _ _ => id

end Woken

/-- A wake reaches its place: what was live with the wake outstanding is live
without it, and has asked if the wake says so. -/
theorem Live.wake {asked : Prop} {wakes rest : List Nat → Prop} {path : List Nat}
    {execution : Execution} (hlive : Live asked wakes execution)
    (hrest : ∀ other, wakes other → other = path ∨ rest other) :
    Live (asked ∨ (Execution.wake path execution).2 = true) rest
      (Execution.wake path execution).1 := by
  induction path generalizing execution asked wakes rest with
  | nil =>
      apply hlive.mono (fun _ => Or.inl (Or.inr rfl))
      intro position path hwake
      exact (hrest _ hwake).resolve_left (List.cons_ne_nil _ _)
  | cons position path ih =>
      have hroot : wakes [] → rest [] := fun hwake =>
        (hrest [] hwake).resolve_left (List.cons_ne_nil _ _).symm
      cases hlive with
      | finished result => exact .finished result
      | planned hplan hasked => exact .planned hplan (hasked.imp Or.inl hroot)
      | waiting reply hasked => exact .waiting reply (hasked.imp Or.inl hroot)
      | joining asks hpending hqueued hasks hchildren hasked =>
          rename_i op children queue
          -- The wake goes to one child; those of the others stay outstanding.
          have hothers : ∀ index child, index ≠ position →
              children[index]? = some child →
              Live (asks index) (fun path => rest (index :: path)) child := by
            intro index child hne hchild
            have hbelow : ∀ other, wakes (index :: other) → rest (index :: other) := by
              intro other hwake
              apply (hrest _ hwake).resolve_left
              intro heq
              exact hne (List.cons.inj heq).1
            exact (hchildren index child hchild).mono (Or.imp_right (hbelow []))
              fun next other => hbelow (next :: other)
          cases hchild : children[position]? with
          | none =>
              rw [Execution.wake, hchild]
              refine .joining asks hpending hqueued hasks ?_ ?_
              · intro index child hget
                refine hothers index child (fun heq => ?_) hget
                rw [heq, hchild] at hget
                cases hget
              · exact hasked.imp Or.inl (Or.imp_left hroot)
          | some child =>
              have hafter : Live (asks position ∨ (Execution.wake path child).2 = true)
                  (fun path => rest (position :: path)) (Execution.wake path child).1 :=
                ih (hchildren position child hchild) fun other hwake =>
                  (hrest _ hwake).imp_left fun heq => (List.cons.inj heq).2
              rw [Execution.wake_joining hchild]
              exact live_woken op hafter hchild (isFinished_wake path child)
                (hpending.wake hchild path) hqueued hasks hothers
                (hasked.imp_right (Or.imp_left hroot))

/-- What is live with wakes outstanding may be polled when they are done. -/
theorem Live.resume {asked : Prop} {polled : Polled}
    (hlive : Live asked (· ∈ polled.wakes) polled.execution) : Ready polled.resume := by
  obtain ⟨execution, again, paths⟩ := polled
  dsimp only at hlive
  rw [Polled.resume]
  dsimp only
  induction paths using List.reverseRecOn generalizing asked execution with
  | nil =>
      apply hlive.mono (fun _ => Or.inl trivial)
      intro position path hwake
      cases hwake
  | append_singleton paths path ih =>
      rw [List.foldr_append]
      refine ih _ (hlive.wake fun other hmem => ?_)
      rw [List.mem_append, List.mem_singleton] at hmem
      exact hmem.symm

end Execution

end NestedQuery
