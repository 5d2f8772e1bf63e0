import NestedQuery.Proofs.Evaluation
import NestedQuery.Proofs.Resolution.Step
import Mathlib.Data.List.Perm.Basic

/-!
# Transcripts of plans

What the execution of a plan sends, counts and logs, read off the plan and the
answers of the client.  The opening comes in pre-order: a merge step is split, a
direct step is sent.  The closing comes in post-order and stops at the first query
that fails: an answer is taken, and a merge step whose children have records is
merged.

A merge step is merged in the closing if the direct steps up to its end all stand
before the first one that fails.  The places of the merge steps among the direct
steps are therefore part of the account.
-/

namespace NestedQuery

namespace Execution

/-- What taking the answer to a query does. -/
def answering : Except RemoteError Page → Effects
  | .ok _ => {}
  | .error error => failing error

/-- What a merge step does once its children have come to a result. -/
def completing (op : BoolOp) : Except RemoteError (List Record) → Effects
  | .ok merged => merging op merged
  | .error _ => {}

/-- The entry of a failure, if there is one. -/
def failureEntries (failure? : Option RemoteError) : List Log.Entry :=
  failure?.toList.flatMap fun error => (failing error).logged

theorem logged_answering (reply : Except RemoteError Page) :
    (answering reply).logged = failureEntries (failureOf reply) := by
  cases reply <;> rfl

end Execution

/-- The number of queries before the first one that fails. -/
def Answer.answered (answer : Answer) (queries : List Query) : Nat :=
  queries.findIdx fun query => (answer.failure? query).isSome

theorem Answer.answered_append_of_lt {answer : Answer} {first : List Query}
    (hfails : answer.answered first < first.length) (rest : List Query) :
    answer.answered (first ++ rest) = answer.answered first := by
  rw [answered] at hfails
  rw [answered, List.findIdx_append, if_pos hfails, answered]

theorem Answer.answered_append_of_eq {answer : Answer} {first : List Query}
    (hall : answer.answered first = first.length) (rest : List Query) :
    answer.answered (first ++ rest) = first.length + answer.answered rest := by
  rw [answered] at hall
  rw [answered, List.findIdx_append, hall, if_neg (Nat.lt_irrefl _), Nat.add_comm,
    answered]

namespace Plan

open Execution

mutual

/-- What splitting the merge steps and sending the direct steps does. -/
def opening : Plan → Effects
  | .direct filter sort level => sending filter sort level
  | .merge op level children => splitting op level children ++ allOpening children

def allOpening : List Plan → Effects
  | [] => {}
  | plan :: plans => plan.opening ++ allOpening plans

end

/-- What the merge of a step does, if its children have records. -/
def completion (answer : Answer) : Plan → Effects
  | .direct _ _ _ => {}
  | .merge op level children => completing op ((merge op level children).evaluate answer)

mutual

/-- What taking the answers from left to right does, up to the first failure. -/
def closing (answer : Answer) : Plan → Effects
  | .direct filter sort _ => answering (answer (.ofSort filter sort)).outcome
  | .merge op level children =>
      allClosing answer children ++ completion answer (.merge op level children)

def allClosing (answer : Answer) : List Plan → Effects
  | [] => {}
  | plan :: plans =>
      match plan.evaluate answer with
      | .ok _ => plan.closing answer ++ allClosing answer plans
      | .error _ => plan.closing answer

end

mutual

/-- The number of merge steps. -/
def mergeSteps : Plan → Nat
  | .direct _ _ _ => 0
  | .merge _ _ children => allMergeSteps children + 1

def allMergeSteps : List Plan → Nat
  | [] => 0
  | plan :: plans => plan.mergeSteps + allMergeSteps plans

end

mutual

/-- The merge steps in post-order, each with the number of direct steps up to its
end, where some number stands before the plan. -/
def joins (before : Nat) : Plan → List (Nat × Plan)
  | .direct _ _ _ => []
  | .merge op level children =>
      allJoins before children ++
        [(before + allRemoteCalls children, .merge op level children)]

def allJoins (before : Nat) : List Plan → List (Nat × Plan)
  | [] => []
  | plan :: plans => plan.joins before ++ allJoins (before + plan.remoteCalls) plans

end

/-- What the merges of some merge steps log. -/
def joinEntries (answer : Answer) (joins : List (Nat × Plan)) : List Log.Entry :=
  joins.flatMap fun join => (join.2.completion answer).logged

mutual

/-- All entries that an execution may log, whatever its schedule. -/
def entries (answer : Answer) : Plan → List Log.Entry
  | .direct filter sort level =>
      (sending filter sort level).logged ++
        (answering (answer (.ofSort filter sort)).outcome).logged
  | .merge op level children =>
      (splitting op level children).logged ++ allEntries answer children ++
        (completion answer (.merge op level children)).logged

def allEntries (answer : Answer) : List Plan → List Log.Entry
  | [] => []
  | plan :: plans => plan.entries answer ++ allEntries answer plans

end

theorem opening_merge (op : BoolOp) (level : Nat) (children : List Plan) :
    (merge op level children).opening =
      splitting op level children ++ Effects.concat (children.map opening) := by
  have hall : allOpening children = Effects.concat (children.map opening) := by
    induction children with
    | nil => rfl
    | cons child children ih => rw [allOpening, ih, List.map_cons, Effects.concat_cons]
  rw [opening, hall]

theorem entries_merge (answer : Answer) (op : BoolOp) (level : Nat)
    (children : List Plan) :
    (merge op level children).entries answer =
      (splitting op level children).logged ++ children.flatMap (entries answer) ++
        (completion answer (.merge op level children)).logged := by
  have hall : allEntries answer children = children.flatMap (entries answer) := by
    induction children with
    | nil => rfl
    | cons child children ih => rw [allEntries, ih, List.flatMap_cons]
  rw [entries, hall]

/-- The opening sends every query in its place. -/
theorem sent_opening (plan : Plan) : plan.opening.sent = plan.queries := by
  induction plan using Plan.induct with
  | direct filter sort level => rfl
  | merge op level children ih =>
      rw [opening_merge, Effects.sent_append, Effects.sent_concat, List.flatMap_map,
        queries_merge]
      exact List.flatMap_congr ih

/-! ## Places of merge steps -/

theorem mem_joins {plan : Plan} {before : Nat} {join : Nat × Plan}
    (hmem : join ∈ plan.joins before) :
    before ≤ join.1 ∧ join.1 ≤ before + plan.remoteCalls := by
  induction plan using Plan.induct generalizing before with
  | direct filter sort level => cases hmem
  | merge op level children ih =>
      rw [joins, List.mem_append, List.mem_singleton] at hmem
      rw [remoteCalls]
      rcases hmem with hmem | rfl
      · induction children generalizing before with
        | nil => cases hmem
        | cons child children ihrest =>
            obtain ⟨hchild, hchildren⟩ := List.forall_mem_cons.mp ih
            rw [allJoins, List.mem_append] at hmem
            rw [allRemoteCalls]
            rcases hmem with hmem | hmem
            · have hwithin := hchild hmem
              omega
            · have hwithin := ihrest hchildren hmem
              omega
      · exact ⟨Nat.le_add_right _ _, Nat.le_refl _⟩

theorem le_of_mem_allJoins {plans : List Plan} {before : Nat} {join : Nat × Plan}
    (hmem : join ∈ allJoins before plans) : before ≤ join.1 := by
  induction plans generalizing before with
  | nil => cases hmem
  | cons plan plans ih =>
      rw [allJoins, List.mem_append] at hmem
      rcases hmem with hmem | hmem
      · exact (mem_joins hmem).1
      · exact Nat.le_trans (Nat.le_add_right _ _) (ih hmem)

/-- Every merge step is completed once. -/
theorem length_joins (plan : Plan) (before : Nat) :
    (plan.joins before).length = plan.mergeSteps := by
  induction plan using Plan.induct generalizing before with
  | direct filter sort level => rfl
  | merge op level children ih =>
      have hall : (allJoins before children).length = allMergeSteps children := by
        induction children generalizing before with
        | nil => rfl
        | cons child children ihrest =>
            obtain ⟨hchild, hchildren⟩ := List.forall_mem_cons.mp ih
            rw [allJoins, List.length_append, hchild, ihrest hchildren, allMergeSteps]
      rw [joins, List.length_append, hall, mergeSteps]
      rfl

/-! ## All entries -/

/-- The entries of the opening, those of the failures and those of the merges. -/
theorem entries_perm (answer : Answer) (plan : Plan) (before : Nat) :
    (plan.entries answer).Perm
      (plan.opening.logged ++
        plan.queries.flatMap (fun query => failureEntries (answer.failure? query)) ++
        joinEntries answer (plan.joins before)) := by
  induction plan using Plan.induct generalizing before with
  | direct filter sort level =>
      rw [entries, opening, queries, joins, logged_answering, List.flatMap_cons,
        List.flatMap_nil, List.append_nil, joinEntries, List.flatMap_nil,
        List.append_nil]
      exact List.Perm.refl _
  | merge op level children ih =>
      have hall : (children.flatMap (entries answer)).Perm
          (children.flatMap (fun child => child.opening.logged) ++
            (children.flatMap queries).flatMap
              (fun query => failureEntries (answer.failure? query)) ++
            joinEntries answer (allJoins before children)) := by
        induction children generalizing before with
        | nil => exact List.Perm.refl _
        | cons child children ihrest =>
            obtain ⟨hchild, hchildren⟩ := List.forall_mem_cons.mp ih
            have hfirst := hchild before
            have hrest := ihrest hchildren (before + child.remoteCalls)
            rw [List.perm_iff_count] at hfirst hrest ⊢
            intro entry
            have hcount := hfirst entry
            have hcounts := hrest entry
            simp only [List.flatMap_cons, List.flatMap_append, List.count_append,
              allJoins, joinEntries] at hcount hcounts ⊢
            omega
      rw [entries_merge, opening_merge, Effects.logged_append, Effects.logged_concat,
        List.flatMap_map, queries_merge, joins]
      rw [List.perm_iff_count] at hall ⊢
      intro entry
      have hcount := hall entry
      simp only [joinEntries, List.flatMap_append, List.flatMap_cons,
        List.flatMap_nil, List.count_append, List.append_nil] at hcount ⊢
      omega

/-- Merges are logged under an event of their own. -/
theorem event_of_mem_joinEntries {answer : Answer} {joins : List (Nat × Plan)}
    {entry : Log.Entry} (hmem : entry ∈ joinEntries answer joins) :
    entry.event = Log.Event.mergeComplete.name := by
  obtain ⟨join, -, hmem⟩ := List.mem_flatMap.mp hmem
  cases hplan : join.2 with
  | direct filter sort level =>
      rw [hplan] at hmem
      cases hmem
  | merge op level children =>
      rw [hplan, completion] at hmem
      cases heval : (merge op level children).evaluate answer with
      | error error =>
          rw [heval] at hmem
          cases hmem
      | ok records =>
          rw [heval] at hmem
          cases List.mem_singleton.mp hmem
          rfl

/-! ## The closing up to the first failure -/

/-- The direct steps of a plan that has an answer are all answered. -/
theorem answered_of_evaluate_eq_ok {answer : Answer} {plan : Plan}
    {records : List Record} (heval : plan.evaluate answer = .ok records) :
    answer.answered plan.queries = plan.queries.length := by
  rw [Answer.answered, List.findIdx_eq_length]
  intro query hquery
  rw [failure?_eq_none_of_evaluate_eq_ok heval query hquery]
  rfl

theorem answered_of_evaluate_eq_error {answer : Answer} {plan : Plan}
    {error : RemoteError} (heval : plan.evaluate answer = .error error) :
    answer.answered plan.queries < plan.queries.length := by
  have hfailure := failureOf_evaluate answer plan
  rw [heval, failureOf_error] at hfailure
  obtain ⟨query, hquery, herror⟩ := List.exists_of_findSome?_eq_some hfailure.symm
  rw [Answer.answered, List.findIdx_lt_length]
  exact ⟨query, hquery, by rw [herror]; rfl⟩

/-- The merge steps whose direct steps all come before some place. -/
def joinsUpTo (last : Nat) (joins : List (Nat × Plan)) : List (Nat × Plan) :=
  joins.filter fun join => join.1 ≤ last

theorem joinsUpTo_append (last : Nat) (first rest : List (Nat × Plan)) :
    joinsUpTo last (first ++ rest) = joinsUpTo last first ++ joinsUpTo last rest :=
  List.filter_append _ _

theorem joinsUpTo_of_le {last : Nat} {joins : List (Nat × Plan)}
    (hle : ∀ join ∈ joins, join.1 ≤ last) : joinsUpTo last joins = joins := by
  rw [joinsUpTo, List.filter_eq_self]
  exact fun join hmem => decide_eq_true (hle join hmem)

theorem joinsUpTo_of_lt {last : Nat} {joins : List (Nat × Plan)}
    (hlt : ∀ join ∈ joins, last < join.1) : joinsUpTo last joins = [] := by
  rw [joinsUpTo, List.filter_eq_nil_iff]
  intro join hmem
  rw [decide_eq_true_eq]
  exact Nat.not_le.mpr (hlt join hmem)

theorem joinEntries_append (answer : Answer) (first rest : List (Nat × Plan)) :
    joinEntries answer (first ++ rest) =
      joinEntries answer first ++ joinEntries answer rest :=
  List.flatMap_append

/-- What a closing logs: the merges whose direct steps come before the first one
that fails, and then its failure. -/
def Closes (answer : Answer) (closing : Effects) (joins : List (Nat × Plan))
    (last : Nat) (failure? : Option RemoteError) : Prop :=
  closing.logged = joinEntries answer (joinsUpTo last joins) ++ failureEntries failure?

theorem closes_allClosing {answer : Answer} {plans : List Plan}
    (hplans : ∀ plan ∈ plans, ∀ before,
      Closes answer (plan.closing answer) (plan.joins before)
        (before + answer.answered plan.queries) (failureOf (plan.evaluate answer)))
    (before : Nat) :
    Closes answer (allClosing answer plans) (allJoins before plans)
      (before + answer.answered (plans.flatMap queries))
      (failureOf (gather (plans.map (evaluate answer)))) := by
  induction plans generalizing before with
  | nil => rfl
  | cons plan plans ih =>
      obtain ⟨hplan, hrest⟩ := List.forall_mem_cons.mp hplans
      have hfirst := hplan before
      rw [Closes] at hfirst ⊢
      rw [allClosing, allJoins, List.map_cons, List.flatMap_cons, joinsUpTo_append,
        joinEntries_append]
      cases heval : plan.evaluate answer with
      | ok records =>
          have hanswered := answered_of_evaluate_eq_ok heval
          have hlater := ih hrest (before + plan.queries.length)
          have hearly : ∀ last, before + plan.queries.length ≤ last →
              joinsUpTo last (plan.joins before) = plan.joins before := by
            intro last hlast
            apply joinsUpTo_of_le
            intro join hmem
            have hle := (mem_joins hmem).2
            rw [length_queries] at hlast
            omega
          rw [Closes] at hlater
          rw [heval, hanswered, hearly _ (Nat.le_refl _)] at hfirst
          rw [Answer.answered_append_of_eq hanswered, ← Nat.add_assoc,
            hearly _ (Nat.le_add_right _ _), ← length_queries, gather, failureOf_map,
            Effects.logged_append, hfirst, hlater]
          simp [failureEntries]
      | error error =>
          have hanswered := answered_of_evaluate_eq_error heval
          have hlate : ∀ join ∈ allJoins (before + plan.remoteCalls) plans,
              before + answer.answered plan.queries < join.1 := by
            intro join hmem
            have hle := le_of_mem_allJoins hmem
            rw [length_queries] at hanswered
            omega
          rw [heval] at hfirst
          rw [Answer.answered_append_of_lt hanswered, joinsUpTo_of_lt hlate, hfirst]
          simp [joinEntries, gather]

/-- The closing of a plan, before which some direct steps stand. -/
theorem closes_closing (answer : Answer) (plan : Plan) (before : Nat) :
    Closes answer (plan.closing answer) (plan.joins before)
      (before + answer.answered plan.queries) (failureOf (plan.evaluate answer)) := by
  induction plan using Plan.induct generalizing before with
  | direct filter sort level =>
      rw [Closes, closing, logged_answering, evaluate, failureOf_map]
      rfl
  | merge op level children ih =>
      have hall := closes_allClosing ih before
      have hcount : allRemoteCalls children = (merge op level children).queries.length :=
        (length_queries (merge op level children)).symm
      have hfailure : failureOf (gather (children.map (evaluate answer))) =
          failureOf ((merge op level children).evaluate answer) := by
        rw [evaluate_merge, failureOf_map]
      rw [Closes, hfailure, ← queries_merge op level] at hall
      rw [Closes, closing, Effects.logged_append, hall, joins, joinsUpTo_append,
        joinEntries_append, List.append_assoc, List.append_assoc, hcount]
      apply congrArg
      -- The step itself is merged last, and only if nothing fails.
      cases heval : (merge op level children).evaluate answer with
      | ok records =>
          rw [answered_of_evaluate_eq_ok heval,
            joinsUpTo_of_le fun join hmem => Nat.le_of_eq (by rw [List.mem_singleton.mp hmem])]
          simp [joinEntries, failureEntries]
      | error error =>
          have hanswered := answered_of_evaluate_eq_error heval
          rw [joinsUpTo_of_lt fun join hmem => by
            rw [List.mem_singleton.mp hmem]
            exact Nat.add_lt_add_left hanswered before]
          simp [joinEntries, completion, completing, heval]

end Plan

end NestedQuery
