import NestedQuery.Proofs.Resolution.Progress
import NestedQuery.Proofs.Resolution.Transcript

/-!
# What steps log

An execution has entries that it may still log.  A step logs some of them and no
others, and as long as there is an answer nothing is dropped.  Whatever the
schedule, an execution that comes to records has therefore logged exactly the
entries of its plan, and one that fails has logged some of them, each at most as
often as the plan has it.

The failure it ends with is among them: it is logged when it is met, before any
group around it is aborted.
-/

namespace NestedQuery

namespace Execution

mutual

/-- The entries an execution may still log. -/
def outstanding (answer : Answer) : Execution → List Log.Entry
  | .planned plan => plan.entries answer
  | .waiting reply => (answering reply).logged
  | .joining op children queue =>
      allOutstanding answer children ++
        (completing op ((joining op children queue).evaluate answer)).logged
  | .finished _ => []

def allOutstanding (answer : Answer) : List Execution → List Log.Entry
  | [] => []
  | child :: children => child.outstanding answer ++ allOutstanding answer children

end

mutual

/-- The failures that parts of an execution have ended with. -/
def met : Execution → List RemoteError
  | .planned _ => []
  | .waiting _ => []
  | .joining _ children _ => allMet children
  | .finished result => (failureOf result).toList

def allMet : List Execution → List RemoteError
  | [] => []
  | child :: children => child.met ++ allMet children

end

theorem outstanding_joining (answer : Answer) (op : BoolOp)
    (children : List Execution) (queue : List Nat) :
    (joining op children queue).outstanding answer =
      children.flatMap (outstanding answer) ++
        (completing op ((joining op children queue).evaluate answer)).logged := by
  have hall : allOutstanding answer children = children.flatMap (outstanding answer) := by
    induction children with
    | nil => rfl
    | cons child children ih => rw [allOutstanding, ih, List.flatMap_cons]
  rw [outstanding, hall]

theorem met_joining (op : BoolOp) (children : List Execution) (queue : List Nat) :
    (joining op children queue).met = children.flatMap met := by
  rw [met]
  induction children with
  | nil => rfl
  | cons child children ih => rw [allMet, ih, List.flatMap_cons]

/-- What is merged depends on the records only. -/
theorem completing_congr (op : BoolOp) {first second : Except RemoteError (List Record)}
    (hsame : ∀ records, first = .ok records ↔ second = .ok records) :
    completing op first = completing op second := by
  cases first with
  | ok records => rw [(hsame records).mp rfl]
  | error error =>
      cases second with
      | ok records => cases (hsame records).mpr rfl
      | error other => rfl

variable {answer : Answer} {before after : Execution} {effects : Effects}

/-- What a step logs and what is outstanding after it was outstanding before.  The
rest is dropped, and only where there is no answer. -/
theorem Step.exists_withheld (hstep : Step answer before effects after) :
    ∃ dropped, (effects.logged ++ after.outstanding answer ++ dropped).Perm
        (before.outstanding answer) ∧
      ∀ records, before.evaluate answer = .ok records → dropped = [] := by
  have hwhole := hstep
  induction hstep with
  | send hanswer =>
      refine ⟨[], ?_, fun _ _ => rfl⟩
      rw [outstanding, outstanding, Plan.entries, hanswer, List.append_nil]
      exact List.Perm.refl _
  | refuse hanswer =>
      refine ⟨[], ?_, fun _ _ => rfl⟩
      rw [outstanding, outstanding, Plan.entries, hanswer, List.append_nil,
        List.append_nil]
      exact List.Perm.refl _
  | receive page => exact ⟨[], List.Perm.refl _, fun _ _ => rfl⟩
  | fail error => exact ⟨[], List.Perm.refl _, fun _ _ => rfl⟩
  | split op level plans queue =>
      refine ⟨[], ?_, fun _ _ => rfl⟩
      have hsame : completing op ((Plan.merge op level plans).evaluate answer) =
          completing op ((joining op (plans.map planned) queue).evaluate answer) :=
        completing_congr op hwhole.evaluate_eq_ok_iff
      rw [outstanding_joining, outstanding, Plan.entries_merge, List.append_nil,
        ← List.append_assoc, List.flatMap_map, Plan.completion, hsame]
      exact List.Perm.refl _
  | @child op left right queue before after effects hstep ih =>
      obtain ⟨dropped, hperm, hkept⟩ := ih hstep
      refine ⟨dropped, ?_, ?_⟩
      · rw [outstanding_joining, outstanding_joining,
          completing_congr op hwhole.evaluate_eq_ok_iff, List.flatMap_append,
          List.flatMap_append, List.flatMap_cons, List.flatMap_cons]
        rw [List.perm_iff_count] at hperm ⊢
        intro entry
        have hcount := hperm entry
        simp only [List.count_append] at hcount ⊢
        omega
      · intro records heval
        rw [evaluate_joining, map_eq_ok_iff] at heval
        obtain ⟨lists, hgather, -⟩ := heval
        obtain ⟨list, hlist⟩ := exists_of_gather hgather before
          (List.mem_append_right _ List.mem_cons_self)
        exact hkept list hlist
  | requeue op children queue other =>
      refine ⟨[], ?_, fun _ _ => rfl⟩
      rw [outstanding_joining, outstanding_joining, evaluate_joining, evaluate_joining,
        List.append_nil]
      exact List.Perm.refl _
  | @merge op children queue lists hresults =>
      refine ⟨[], ?_, fun _ _ => rfl⟩
      have heval := (hwhole.evaluate_eq_ok_iff _).mpr rfl
      have hnone : children.flatMap (outstanding answer) = [] := by
        rw [results?_eq_some_iff] at hresults
        subst hresults
        rw [List.flatMap_eq_nil_iff]
        intro child hmem
        obtain ⟨records, -, rfl⟩ := List.mem_map.mp hmem
        rfl
      rw [outstanding_joining, hnone, heval]
      exact List.Perm.of_eq (List.append_nil _)
  | @abort op children queue error hmem =>
      -- Everything outstanding is dropped, and with a failed child there is no answer.
      refine ⟨(joining op children queue).outstanding answer, List.Perm.refl _, ?_⟩
      intro records heval
      cases (hwhole.evaluate_eq_ok_iff records).mp heval

theorem Steps.exists_withheld (hsteps : Steps answer before effects after) :
    ∃ dropped, (effects.logged ++ after.outstanding answer ++ dropped).Perm
        (before.outstanding answer) ∧
      ∀ records, before.evaluate answer = .ok records → dropped = [] := by
  induction hsteps with
  | refl execution =>
      refine ⟨[], ?_, fun _ _ => rfl⟩
      rw [List.append_nil]
      exact List.Perm.refl _
  | head hstep _ ih =>
      obtain ⟨early, hfirst, hearly⟩ := hstep.exists_withheld
      obtain ⟨late, hrest, hlate⟩ := ih
      refine ⟨late ++ early, ?_, fun records heval => ?_⟩
      · rw [List.perm_iff_count] at hfirst hrest ⊢
        intro entry
        have hcount := hfirst entry
        have hcounts := hrest entry
        simp only [List.count_append, Effects.logged_append] at hcount hcounts ⊢
        omega
      · have hmiddle := (hstep.evaluate_eq_ok_iff records).mp heval
        rw [hearly records heval, hlate records hmiddle]
        rfl

/-! ## Failures -/

/-- A failure that a step brings is logged by it. -/
theorem Step.logged_of_met (hstep : Step answer before effects after)
    {error : RemoteError} (hmet : error ∈ after.met) :
    error ∈ before.met ∨ (failing error).logged ⊆ effects.logged := by
  induction hstep with
  | send hanswer => cases hmet
  | refuse hanswer =>
      cases List.mem_singleton.mp hmet
      exact Or.inr (List.subset_append_right _ _)
  | receive page => cases hmet
  | fail other =>
      cases List.mem_singleton.mp hmet
      exact Or.inr (List.Subset.refl _)
  | split op level plans queue =>
      rw [met_joining, List.mem_flatMap] at hmet
      obtain ⟨child, hchild, hmet⟩ := hmet
      obtain ⟨plan, -, rfl⟩ := List.mem_map.mp hchild
      cases hmet
  | child hstep ih =>
      rw [met_joining, List.flatMap_append, List.flatMap_cons] at hmet ⊢
      simp only [List.mem_append] at hmet ⊢
      rcases hmet with hleft | hafter | hright
      · exact Or.inl (Or.inl hleft)
      · exact (ih hafter).imp_left fun hbefore => Or.inr (Or.inl hbefore)
      · exact Or.inl (Or.inr (Or.inr hright))
  | requeue op children queue other =>
      rw [met_joining] at hmet ⊢
      exact Or.inl hmet
  | merge hresults => cases hmet
  | abort hmem =>
      cases List.mem_singleton.mp hmet
      rw [met_joining]
      exact Or.inl (List.mem_flatMap.mpr ⟨_, hmem, List.mem_singleton_self _⟩)

theorem Steps.logged_of_met (hsteps : Steps answer before effects after)
    {error : RemoteError} (hmet : error ∈ after.met) :
    error ∈ before.met ∨ (failing error).logged ⊆ effects.logged := by
  induction hsteps with
  | refl execution => exact Or.inl hmet
  | head hstep _ ih =>
      rcases ih hmet with hmiddle | hlater
      · exact (hstep.logged_of_met hmiddle).imp_right
          (List.Subset.trans · (List.subset_append_left _ _))
      · exact Or.inr (List.Subset.trans hlater (List.subset_append_right _ _))

end Execution

namespace Plan

open Execution

variable {answer : Answer} {resumption : Resumption} {plan : Plan}

/-- The execution of a plan that comes to records logs the entries of the plan. -/
theorem logged_execute_perm (hplan : plan.Branching) {records : List Record}
    (hdone : (plan.execute answer resumption).value = .ok records) :
    (plan.execute answer resumption).effects.logged.Perm (plan.entries answer) := by
  have hsteps := steps_execute hplan answer resumption
  obtain ⟨dropped, hperm, hkept⟩ := hsteps.exists_withheld
  rw [hkept records ((execute_eq_ok_iff hplan records).mp hdone)] at hperm
  simpa [outstanding] using hperm

/-- The execution of a plan logs none but the entries of the plan, and none of them
more often. -/
theorem logged_execute_subperm (hplan : plan.Branching) (answer : Answer)
    (resumption : Resumption) :
    (plan.execute answer resumption).effects.logged.Subperm (plan.entries answer) := by
  have hsteps := steps_execute hplan answer resumption
  obtain ⟨dropped, hperm, -⟩ := hsteps.exists_withheld
  rw [List.append_assoc] at hperm
  exact (List.sublist_append_left _ _).subperm.trans hperm.subperm

/-- The failure that ends an execution is logged. -/
theorem failure_logged_of_execute (hplan : plan.Branching) {error : RemoteError}
    (hfailed : (plan.execute answer resumption).value = .error error) :
    (failing error).logged ⊆ (plan.execute answer resumption).effects.logged := by
  have hsteps := steps_execute hplan answer resumption
  rw [hfailed] at hsteps
  exact (hsteps.logged_of_met (List.mem_singleton_self _)).resolve_left List.not_mem_nil

end Plan

end NestedQuery
