import NestedQuery.Proofs.Resolution.Service

/-!
# Independence of the limit

Conditions hold of records or not, and groups hold as their operators say.  If
the parts of a filter that need not be split are answered with the records of one
list of which they hold, the filter is answered with the same records as in one
piece: no limit changes the answer but in its order.  The order changes only where
an or-group is split.
-/

namespace NestedQuery

namespace Filter

mutual

/-- Whether a filter holds of a record, given of which records conditions hold. -/
def holds (truth : Condition → Record → Bool) (record : Record) : Filter → Bool
  | .group .and children => allHold truth record children
  | .group .or children => anyHolds truth record children
  | .condition leaf => truth leaf record

def allHold (truth : Condition → Record → Bool) (record : Record) :
    List Filter → Bool
  | [] => true
  | filter :: filters => filter.holds truth record && allHold truth record filters

def anyHolds (truth : Condition → Record → Bool) (record : Record) :
    List Filter → Bool
  | [] => false
  | filter :: filters => filter.holds truth record || anyHolds truth record filters

end

variable {truth : Condition → Record → Bool} {record : Record}

theorem holds_and (children : List Filter) :
    (group .and children).holds truth record =
      children.all fun child => child.holds truth record := by
  rw [holds]
  induction children with
  | nil => rfl
  | cons child children ih => rw [allHold, ih, List.all_cons]

theorem holds_or (children : List Filter) :
    (group .or children).holds truth record =
      children.any fun child => child.holds truth record := by
  rw [holds]
  induction children with
  | nil => rfl
  | cons child children ih => rw [anyHolds, ih, List.any_cons]

end Filter

/-- A client that answers every part of a filter within a limit with the records of
one list of which the part holds, in the order of the list. -/
def Answer.SelectsFrom (answer : Answer) (records : List Record)
    (truth : Condition → Record → Bool) (limit : Nat) (filter : Filter) : Prop :=
  ∀ part : Filter, part.Within filter → part.level ≤ limit →
    (answer (.ofSort (some part) none)).outcome.map Page.records =
      .ok (records.filter fun record => part.holds truth record)

theorem Answer.SelectsFrom.child {answer : Answer} {records : List Record}
    {truth : Condition → Record → Bool} {limit : Nat} {op : BoolOp}
    {children : List Filter}
    (hanswer : answer.SelectsFrom records truth limit (.group op children))
    {child : Filter} (hmem : child ∈ children) :
    answer.SelectsFrom records truth limit child :=
  fun part hwithin => hanswer part (.child hmem hwithin)

/-- No or-group lies above the limit, so none is split. -/
def Filter.KeepsOrder (limit : Nat) (filter : Filter) : Prop :=
  ∀ children, (Filter.group .or children).Within filter →
    (Filter.group .or children).level ≤ limit

section Selections

variable {answer : Answer} {records : List Record}
variable {truth : Condition → Record → Bool}

/-- The plan of a filter is answered with the records of which the filter holds. -/
theorem exists_evaluate_selection (hdistinct : DistinctIds records) (limit : Nat)
    (filter : Filter) (hanswer : answer.SelectsFrom records truth limit filter) :
    ∃ list, (Plan.ofFilter limit none filter).evaluate answer = .ok list ∧
      list.Perm (records.filter fun record => filter.holds truth record) ∧
      (filter.KeepsOrder limit →
        list = records.filter fun record => filter.holds truth record) := by
  induction filter using (Plan.ofFilter_induct limit) with
  | direct filter hlevel =>
      rw [Plan.ofFilter_of_level_le hlevel, Plan.evaluate]
      exact ⟨_, hanswer filter (.refl _) hlevel, List.Perm.refl _, fun _ => rfl⟩
  | split op children hlevel ih =>
      choose! lists hlists using fun child hmem => ih child hmem (hanswer.child hmem)
      have hne := Filter.ne_nil_of_lt_groupLevel hlevel
      have hgather : gather (children.map
          (Plan.evaluate answer ∘ Plan.ofFilter limit none)) =
          .ok (children.map lists) :=
        gather_map_eq_ok fun child hmem => (hlists child hmem).1
      have heval : (Plan.ofFilter limit none (.group op children)).evaluate answer =
          .ok (merge op (children.map lists)) := by
        rw [Plan.ofFilter_of_lt_groupLevel hlevel, Plan.evaluate_merge, List.map_map,
          hgather, Except.map]
      refine ⟨_, heval, ?_⟩
      cases op with
      | and =>
          simp only [Filter.holds_and]
          constructor
          · exact intersection_perm_selection hdistinct hne
              fun child hmem => (hlists child hmem).2.1
          · intro horder
            apply intersection_eq_selection hdistinct hne
            intro child hmem
            apply (hlists child hmem).2.2
            intro grandchildren hwithin
            exact horder grandchildren (.child hmem hwithin)
      | or =>
          simp only [Filter.holds_or]
          constructor
          · exact union_perm_selection hdistinct
              fun child hmem => (hlists child hmem).2.1
          · -- A union lists the records as its children do, not as the database does.
            intro horder
            exact absurd hlevel (Nat.not_lt.mpr (horder children (.refl _)))

end Selections

/-- Under every limit a filter is answered with the records of which it holds, and
in their order if no or-group is split. -/
theorem resolution_independent_of_limit (service : Service) (records : List Record)
    (truth : Condition → Record → Bool) (filter : Filter) (limit : Nat)
    (hdistinct : DistinctIds records)
    (hanswer : service.answer.SelectsFrom records truth limit filter)
    (hfilter : ∀ leaf ∈ filter.leaves, service.schema.Admits leaf) :
    ∃ list, (service.resolve (some filter) none limit).value = .ok list ∧
      list.Perm (records.filter fun record => filter.holds truth record) ∧
      (filter.KeepsOrder limit →
        list = records.filter fun record => filter.holds truth record) := by
  obtain ⟨list, heval, hperm, horder⟩ :=
    exists_evaluate_selection hdistinct limit filter hanswer
  have hplan := @Service.plan_of_admitted service none limit filter none hfilter rfl
  exact ⟨list, (Service.resolve_eq_ok_iff hplan list).mpr heval, hperm, horder⟩

/-- A remote database of three deals. -/
def deals : List Record :=
  [⟨"1", .ofList [("Status", .string "Open")]⟩,
    ⟨"2", .ofList [("Status", .string "Won")]⟩,
    ⟨"3", .ofList [("Status", .string "Lost")]⟩]

def dealHas (leaf : Condition) (deal : Record) : Bool :=
  deal.payload.get? "Status" = some leaf.operand

/-- A split or-group of a condition and of a group around another one. -/
def wonOrOpen : Filter :=
  .group .or [Filter.statusIs "Won", .group .and [Filter.statusIs "Open"]]

/-- The answers of the database to the conditions of the group. -/
def dealAnswers : AnswerTable where
  responses := ["Won", "Open"].map fun status =>
    (some (Filter.statusIs status),
      deals.filter fun deal => (Filter.statusIs status).holds dealHas deal)

def dealService : Service := ⟨.default, dealAnswers.answer, "0", .afterPoll⟩

theorem selectsFrom_dealAnswers :
    dealAnswers.answer.SelectsFrom deals dealHas 0 wonOrOpen := by
  intro part hwithin hlevel
  cases hwithin with
  | refl => exact absurd hlevel (by decide)
  | child hmem hwithin =>
      rcases List.mem_pair.mp hmem with rfl | rfl
      · cases hwithin
        rfl
      · cases hwithin with
        | refl => exact absurd hlevel (by decide)
        | child hmem hwithin =>
            cases List.mem_singleton.mp hmem
            cases hwithin
            rfl

/-- A split or-group finds the open and the won deal. -/
theorem resolution_independent_of_limit_deals :
    dealService.answer.SelectsFrom deals dealHas 0 wonOrOpen ∧
      ∃ list, (dealService.resolve (some wonOrOpen) none 0).value = .ok list ∧
        list.Perm [⟨"1", .ofList [("Status", .string "Open")]⟩,
          ⟨"2", .ofList [("Status", .string "Won")]⟩] := by
  have hdistinct : DistinctIds deals := by
    rw [DistinctIds]
    decide
  have hfilter := (Schema.checkFilter_eq_ok_iff dealService.schema wonOrOpen).mp rfl
  obtain ⟨list, hvalue, hperm, -⟩ := resolution_independent_of_limit dealService deals
    dealHas wonOrOpen 0 hdistinct selectsFrom_dealAnswers hfilter
  exact ⟨selectsFrom_dealAnswers, list, hvalue, hperm⟩

end NestedQuery
