import NestedQuery.Proofs.Resolution.Dropping
import NestedQuery.Proofs.Resolution.Logging

/-!
# Accounting

The counters are a second record of what is sent and logged.  Every step of an
execution keeps the two in agreement: a query that is sent, a group that is split
and a failure that is met are counted when they are logged, each once.  Effects that
agree with themselves in this way are called booked; they are booked together if
they are booked one by one.
-/

namespace NestedQuery

namespace Log

/-- The number of entries of an event. -/
def occurrences (event : Event) (entries : List Entry) : Nat :=
  entries.countP (·.event == event.name)

@[simp]
theorem occurrences_nil (event : Event) : occurrences event [] = 0 := rfl

@[simp]
theorem occurrences_append (event : Event) (first second : List Entry) :
    occurrences event (first ++ second) =
      occurrences event first + occurrences event second :=
  List.countP_append

theorem Event.name_injective : Function.Injective Event.name := by
  intro first second hname
  cases first <;> cases second <;> first | rfl | (revert hname; decide)

/-- An entry is counted under its own event only. -/
theorem occurrences_singleton {entry : Entry} (event : Event)
    (hentry : entry.event = event.name) (other : Event) :
    occurrences other [entry] = if event = other then 1 else 0 := by
  rw [occurrences, List.countP_singleton]
  simp only [hentry, beq_iff_eq, Event.name_injective.eq_iff]

theorem occurrences_le_of_subperm {first second : List Entry}
    (hsubperm : first.Subperm second) (event : Event) :
    occurrences event first ≤ occurrences event second :=
  hsubperm.countP_le _

theorem occurrences_eq_of_perm {first second : List Entry} (hperm : first.Perm second)
    (event : Event) : occurrences event first = occurrences event second :=
  hperm.countP_eq _

end Log

/-- Counts are added as counters are. -/
theorem toUInt64_add (left right : Nat) :
    (left + right).toUInt64 = left.toUInt64 + right.toUInt64 :=
  UInt64.ofNat_add left right

namespace Effects

open Log (occurrences)

/-- The counters agree with what is sent and logged, beside a number of rejections,
a number of results and a number of records. -/
def Booked (effects : Effects) (rejections results records : Nat) : Prop :=
  effects.counted =
    { resolutions := results.toUInt64
      remoteCalls := effects.sent.length.toUInt64
      remoteFailures := (occurrences .remoteQueryFailed effects.logged).toUInt64
      decompositions := (occurrences .decompositionSplit effects.logged).toUInt64
      filtersRejected := rejections.toUInt64
      recordsReturned := records.toUInt64 }

theorem booked_empty : ({} : Effects).Booked 0 0 0 := rfl

theorem Booked.append {first second : Effects}
    {rejections results records rejections' results' records' : Nat}
    (hfirst : first.Booked rejections results records)
    (hsecond : second.Booked rejections' results' records') :
    (first ++ second).Booked (rejections + rejections') (results + results')
      (records + records') := by
  rw [Booked] at hfirst hsecond ⊢
  rw [counted_append, hfirst, hsecond, sent_append, logged_append,
    Log.occurrences_append, Log.occurrences_append, List.length_append]
  simp only [toUInt64_add]
  rfl

theorem Booked.append_silent {first second : Effects} {rejections results records : Nat}
    (hfirst : first.Booked rejections results records) (hsecond : second.Booked 0 0 0) :
    (first ++ second).Booked rejections results records :=
  hfirst.append hsecond

theorem Booked.silent_append {first second : Effects} {rejections results records : Nat}
    (hfirst : first.Booked 0 0 0) (hsecond : second.Booked rejections results records) :
    (first ++ second).Booked rejections results records := by
  have hboth := hfirst.append hsecond
  rwa [Nat.zero_add, Nat.zero_add, Nat.zero_add] at hboth

end Effects

namespace Execution

open Log (occurrences)

variable {answer : Answer} {before after : Execution} {effects : Effects}

theorem booked_sending (filter : Option Filter) (sort : Option ResolvedSort)
    (level : Nat) : (sending filter sort level).Booked 0 0 0 := rfl

theorem booked_failing (error : RemoteError) : (failing error).Booked 0 0 0 := rfl

/-- A step counts what it sends and logs. -/
theorem Step.booked (hstep : Step answer before effects after) :
    effects.Booked 0 0 0 := by
  induction hstep with
  | send hanswer => exact booked_sending _ _ _
  | refuse hanswer => exact (booked_sending _ _ _).append (booked_failing _)
  | receive page => exact Effects.booked_empty
  | fail error => exact booked_failing error
  | split op level plans queue => rfl
  | child hstep ih => exact ih
  | requeue op children queue other => exact Effects.booked_empty
  | merge hresults => rfl
  | abort hmem => exact Effects.booked_empty

theorem Steps.booked (hsteps : Steps answer before effects after) :
    effects.Booked 0 0 0 := by
  induction hsteps with
  | refl execution => exact Effects.booked_empty
  | head hstep _ ih => exact hstep.booked.append ih

end Execution

namespace Plan

open Log (occurrences)
open Execution

variable {answer : Answer} {resumption : Resumption} {plan : Plan}

theorem booked_execute (plan : Plan) (answer : Answer) (resumption : Resumption) :
    (plan.execute answer resumption).effects.Booked 0 0 0 := by
  obtain ⟨last, hsteps⟩ := steps_run answer resumption plan.depth
    (2 * plan.remoteCalls + 1) (.planned plan)
  exact hsteps.booked

theorem booked_launch (plan : Plan) (answer : Answer) (resumption : Resumption) :
    (plan.launch answer resumption).effects.Booked 0 0 0 := by
  rw [launch, Traced.effects_bind, Traced.effects_pure, Effects.append_empty]
  exact (steps_poll answer resumption plan.depth (.planned plan)).booked

/-! ## The entries of a plan -/

/-- The opening logs each merge step once, and each direct step once. -/
theorem occurrences_opening (event : Log.Event) (plan : Plan) :
    occurrences event plan.opening.logged =
      (if .decompositionSplit = event then plan.mergeSteps else 0) +
        if .remoteQuery = event then plan.remoteCalls else 0 := by
  induction plan using Plan.induct with
  | direct filter sort level =>
      rw [opening, sending, Log.occurrences_singleton .remoteQuery rfl, mergeSteps,
        remoteCalls, ite_self, Nat.zero_add]
  | merge op level children ih =>
      have hall : occurrences event (children.flatMap fun child => child.opening.logged) =
          (if .decompositionSplit = event then allMergeSteps children else 0) +
            if .remoteQuery = event then allRemoteCalls children else 0 := by
        induction children with
        | nil => simp [allMergeSteps, allRemoteCalls]
        | cons child children ihrest =>
            obtain ⟨hchild, hchildren⟩ := List.forall_mem_cons.mp ih
            rw [List.flatMap_cons, Log.occurrences_append, hchild, ihrest hchildren,
              allMergeSteps, allRemoteCalls]
            split <;> split <;> omega
      rw [opening_merge, Effects.logged_append, Effects.logged_concat, List.flatMap_map,
        Log.occurrences_append, hall, splitting,
        Log.occurrences_singleton .decompositionSplit rfl, mergeSteps, remoteCalls]
      split <;> omega

theorem occurrences_failureEntries (event : Log.Event) (failure? : Option RemoteError) :
    occurrences event (failureEntries failure?) =
      if .remoteQueryFailed = event then failure?.isSome.toNat else 0 := by
  cases failure? with
  | none => rw [Option.isSome_none, Bool.toNat_false, ite_self]; rfl
  | some error =>
      rw [failureEntries, Option.toList_some, List.flatMap_singleton, failing,
        Log.occurrences_singleton .remoteQueryFailed rfl]
      rfl

theorem occurrences_joinEntries {event : Log.Event} (hevent : .mergeComplete ≠ event)
    (answer : Answer) (joins : List (Nat × Plan)) :
    occurrences event (joinEntries answer joins) = 0 := by
  rw [occurrences, List.countP_eq_zero]
  intro entry hmem
  rw [event_of_mem_joinEntries hmem, beq_iff_eq, Log.Event.name_injective.eq_iff]
  exact hevent

theorem occurrences_entries {event : Log.Event} (hevent : .mergeComplete ≠ event)
    (answer : Answer) (plan : Plan) :
    occurrences event (plan.entries answer) =
      occurrences event plan.opening.logged +
        if .remoteQueryFailed = event then
          plan.queries.countP fun query => (answer.failure? query).isSome
        else 0 := by
  have hfailures : ∀ queries : List Query,
      occurrences event
          (queries.flatMap fun query => failureEntries (answer.failure? query)) =
        if .remoteQueryFailed = event then
          queries.countP fun query => (answer.failure? query).isSome
        else 0 := by
    intro queries
    induction queries with
    | nil => rw [List.countP_nil, ite_self]; rfl
    | cons query queries ih =>
        rw [List.flatMap_cons, Log.occurrences_append, ih, occurrences_failureEntries,
          List.countP_cons]
        split
        · cases (answer.failure? query).isSome <;> simp [Nat.add_comm]
        · rfl
  rw [Log.occurrences_eq_of_perm (entries_perm answer plan 0), Log.occurrences_append,
    Log.occurrences_append, occurrences_joinEntries hevent, Nat.add_zero, hfailures]

/-! ## Executions -/

theorem splits_opening (plan : Plan) :
    occurrences .decompositionSplit plan.opening.logged = plan.mergeSteps := by
  rw [occurrences_opening]
  rfl

theorem failures_opening (plan : Plan) :
    occurrences .remoteQueryFailed plan.opening.logged = 0 := by
  rw [occurrences_opening]
  rfl

theorem splits_entries (answer : Answer) (plan : Plan) :
    occurrences .decompositionSplit (plan.entries answer) = plan.mergeSteps := by
  rw [occurrences_entries (by decide), splits_opening]
  rfl

theorem failures_entries (answer : Answer) (plan : Plan) :
    occurrences .remoteQueryFailed (plan.entries answer) =
      plan.queries.countP fun query => (answer.failure? query).isSome := by
  rw [occurrences_entries (by decide), failures_opening, if_pos rfl, Nat.zero_add]

theorem splits_execute_le (hplan : plan.Branching) (answer : Answer)
    (resumption : Resumption) :
    occurrences .decompositionSplit (plan.execute answer resumption).effects.logged ≤
      plan.mergeSteps := by
  rw [← splits_entries answer]
  exact Log.occurrences_le_of_subperm (logged_execute_subperm hplan answer resumption) _

theorem splits_execute_of_eq_ok (hplan : plan.Branching) {records : List Record}
    (hdone : (plan.execute answer resumption).value = .ok records) :
    occurrences .decompositionSplit (plan.execute answer resumption).effects.logged =
      plan.mergeSteps := by
  rw [← splits_entries answer]
  exact Log.occurrences_eq_of_perm (logged_execute_perm hplan hdone) _

theorem failures_execute_le (hplan : plan.Branching) (answer : Answer)
    (resumption : Resumption) :
    occurrences .remoteQueryFailed (plan.execute answer resumption).effects.logged ≤
      plan.queries.countP fun query => (answer.failure? query).isSome := by
  rw [← failures_entries answer]
  exact Log.occurrences_le_of_subperm (logged_execute_subperm hplan answer resumption) _

/-- An execution that comes to records has met no failure. -/
theorem failures_execute_of_eq_ok (hplan : plan.Branching) {records : List Record}
    (hdone : (plan.execute answer resumption).value = .ok records) :
    occurrences .remoteQueryFailed (plan.execute answer resumption).effects.logged =
      0 := by
  have heval := (execute_eq_ok_iff hplan records).mp hdone
  have hle := failures_execute_le hplan answer resumption
  have hnone : (plan.queries.countP fun query => (answer.failure? query).isSome) = 0 := by
    rw [List.countP_eq_zero]
    intro query hquery
    rw [failure?_eq_none_of_evaluate_eq_ok heval query hquery]
    exact Bool.false_ne_true
  omega

theorem failures_execute_of_eq_error (hplan : plan.Branching) {error : RemoteError}
    (hfailed : (plan.execute answer resumption).value = .error error) :
    1 ≤ occurrences .remoteQueryFailed
      (plan.execute answer resumption).effects.logged := by
  have hlogged := failure_logged_of_execute hplan hfailed
  rw [occurrences, Nat.one_le_iff_ne_zero, ← Nat.pos_iff_ne_zero, List.countP_pos_iff]
  exact ⟨_, hlogged (List.mem_singleton_self _), beq_self_eq_true _⟩

section Sent

variable (hbranching : plan.Branching)
variable (hsends : ∀ query ∈ plan.queries, ∃ reply, answer query = .sent reply)

include hbranching hsends

theorem splits_execute_of_orderly (horderly : plan.Orderly resumption) :
    occurrences .decompositionSplit (plan.execute answer resumption).effects.logged =
      plan.mergeSteps := by
  obtain ⟨-, later, -, heffects⟩ :=
    execute_opens_of_orderly hbranching horderly hsends
  have hle := splits_execute_le hbranching answer resumption
  rw [heffects, Effects.logged_append, Log.occurrences_append, splits_opening] at hle ⊢
  omega

/-- In a plan without wide groups one failure ends everything. -/
theorem failures_execute_of_narrow (hnarrow : plan.Narrow) :
    occurrences .remoteQueryFailed (plan.execute answer resumption).effects.logged =
      (failureOf (plan.evaluate answer)).isSome.toNat := by
  obtain ⟨-, heffects⟩ := execute_of_narrow resumption hbranching hnarrow hsends
  have hcloses := closes_closing answer plan 0
  rw [Closes] at hcloses
  rw [heffects, Effects.logged_append, hcloses, Log.occurrences_append,
    Log.occurrences_append, failures_opening, occurrences_joinEntries (by decide),
    occurrences_failureEntries, if_pos rfl, Nat.zero_add, Nat.zero_add]

theorem splits_launch_le (resumption : Resumption) :
    occurrences .decompositionSplit (plan.launch answer resumption).effects.logged ≤
      plan.mergeSteps := by
  have hlogged := logged_launch_sublist hbranching hsends resumption
  have hle := Log.occurrences_le_of_subperm hlogged.subperm .decompositionSplit
  rwa [splits_opening] at hle

theorem failures_launch (resumption : Resumption) :
    occurrences .remoteQueryFailed (plan.launch answer resumption).effects.logged = 0 := by
  have hlogged := logged_launch_sublist hbranching hsends resumption
  have hle := Log.occurrences_le_of_subperm hlogged.subperm .remoteQueryFailed
  rw [failures_opening] at hle
  exact Nat.le_zero.mp hle

end Sent

end Plan

end NestedQuery
