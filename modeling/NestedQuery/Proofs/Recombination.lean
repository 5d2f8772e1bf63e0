import NestedQuery.Proofs.Resolution.Service

/-!
# Recombination

A resolution recombines the answers to the direct steps of its plan, whatever
these answers are.  They may contradict one another and repeat identifiers: an
identifier is returned if the plan is true as a formula over the answers, and a
record is returned as it was answered.
-/

namespace NestedQuery

/-- If no direct step fails, the records are those that the plan calls for. -/
theorem recombination_sound (service : Service) (filter : Filter)
    (sort : Option SortRequest) (limit : Nat) {sorted : Option ResolvedSort}
    (hfilter : ∀ leaf ∈ filter.leaves, service.schema.Admits leaf)
    (hsort : service.schema.resolveSort sort = .ok sorted)
    (hanswers : ∀ query ∈ (Plan.build limit sorted (some filter)).queries,
      service.answer.failure? query = none) :
    ∃ records,
      (service.resolve (some filter) sort limit).value = .ok records ∧
      (∀ id, (∃ record ∈ records, record.id = id) ↔
        (Plan.build limit sorted (some filter)).truth
          (fun query => hasId (service.answer.records query) id) = true) ∧
      (∀ record ∈ records,
        ∃ query ∈ (service.resolve (some filter) sort limit).effects.sent,
          record ∈ service.answer.records query) ∧
      ((∀ query ∈ (Plan.build limit sorted (some filter)).queries,
          DistinctIds (service.answer.records query)) → DistinctIds records) := by
  have hplan := @Service.plan_of_admitted service sort limit filter sorted hfilter hsort
  have hbranching := Plan.branching_build limit sorted (some filter)
  obtain ⟨records, heval⟩ := Plan.exists_evaluate_eq_ok hanswers
  have hvalue := (Service.resolve_eq_ok_iff hplan records).mpr heval
  have hsent := Service.sent_resolve_perm hplan hvalue
  refine ⟨records, hvalue, ?_, ?_, Plan.distinctIds_evaluate heval⟩
  · intro id
    rw [← hasId_iff, Plan.hasId_evaluate heval id hbranching]
  · intro record hmem
    obtain ⟨query, hquery, hrecord⟩ :=
      Plan.exists_query_of_mem_evaluate heval record hmem
    exact ⟨query, hsent.mem_iff.mpr hquery, hrecord⟩

/-- Answers that contradict one another and repeat an identifier. -/
def contradictingAnswers : AnswerTable where
  responses :=
    [(some (Filter.statusIs "Open"), [⟨"1", .empty⟩, ⟨"2", .empty⟩, ⟨"2", .empty⟩]),
      (some (Filter.statusIs "Won"), [⟨"2", .ofList [("Name", .string "two")]⟩])]
  fallback := [⟨"3", .empty⟩]

/-- Of an intersection with a union, the records of the first list are returned. -/
theorem recombination_sound_contradicting :
    ∃ records,
      ((⟨.default, contradictingAnswers.answer, "0", .afterPoll⟩ : Service).resolve
        (some (.group .and [Filter.statusIs "Open",
          .group .or [Filter.statusIs "Won", Filter.statusIs "Lost"]]))
        none 0).value = .ok records ∧
      (∃ record ∈ records, record.id = "2") ∧ ¬∃ record ∈ records, record.id = "3" := by
  obtain ⟨records, hvalue, hids, -, -⟩ := recombination_sound
    ⟨.default, contradictingAnswers.answer, "0", .afterPoll⟩
    (.group .and [Filter.statusIs "Open",
      .group .or [Filter.statusIs "Won", Filter.statusIs "Lost"]]) none 0
    ((Schema.checkFilter_eq_ok_iff _ _).mp rfl) rfl (by decide)
  refine ⟨records, hvalue, (hids "2").mpr (by decide), ?_⟩
  rw [hids "3"]
  decide

end NestedQuery
