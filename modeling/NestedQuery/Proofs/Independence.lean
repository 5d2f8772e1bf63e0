import NestedQuery.Proofs.Ledger
import NestedQuery.Query.AnswerTable

/-!
# Independence of operations

A resolver shares its client, its counters and its log among all operations, and every
operation changes them: the client notes what it receives, the counters grow and the
log gets longer.  What an operation reads is the schema and the table of the client,
which nothing changes.  So it does not matter which operations came before, how they
ended, or where they were dropped.

The state is carried from operation to operation here.  Within an operation all queries
are put to the client as it was before the operation, and what it has received is noted
at the end: its answer to a query is the same after any others.  A session adds up the
effects of its operations instead, which comes to the same.
-/

namespace NestedQuery

/-- A resolver over an in-memory client, with all that its operations change. -/
structure Resolver where
  schema : Schema
  client : MemoryClient
  counters : Counters := {}
  logged : List Log.Entry := []
  elapsed : String := "0"
  resumption : Resumption := .afterPoll

namespace Resolver

/-- What an operation of the resolver works with, as the resolver stands before it. -/
def service (resolver : Resolver) : Service where
  schema := resolver.schema
  answer query := (resolver.client.call query).2
  elapsed := resolver.elapsed
  resumption := resolver.resumption

/-- The resolver after some effects. -/
def absorb (resolver : Resolver) (effects : Effects) : Resolver :=
  { resolver with
    client := resolver.client.receiving effects.sent
    counters := resolver.counters + effects.counted
    logged := resolver.logged ++ effects.logged }

/-- The resolver after one operation, and its outcome. -/
def perform (resolver : Resolver) (operation : Operation) : Resolver × Outcome :=
  let performed := resolver.service.perform operation
  (resolver.absorb performed.effects, performed.value)

/-- The resolver after some operations. -/
def run (resolver : Resolver) (operations : List Operation) : Resolver :=
  operations.foldl (fun resolver operation => (resolver.perform operation).1) resolver

/-- A later state of a resolver to which some effects have been added: behind what was
received, counted and logged, with nothing else changed. -/
structure Adds (before : Resolver) (effects : Effects) (after : Resolver) : Prop where
  received_eq : after.client.received = before.client.received ++ effects.sent
  counters_eq : after.counters = before.counters + effects.counted
  logged_eq : after.logged = before.logged ++ effects.logged
  table_eq : after.client.table = before.client.table
  schema_eq : after.schema = before.schema

variable (resolver : Resolver)

theorem adds_absorb (effects : Effects) :
    resolver.Adds effects (resolver.absorb effects) := by
  constructor <;> simp [absorb, MemoryClient.receiving_eq]

/-- No effects change what an operation works with. -/
@[simp]
theorem service_absorb (effects : Effects) :
    (resolver.absorb effects).service = resolver.service := by
  simp only [service, absorb, MemoryClient.answer_receiving]

theorem absorb_append (first second : Effects) :
    resolver.absorb (first ++ second) = (resolver.absorb first).absorb second := by
  simp [absorb, MemoryClient.receiving_eq, Counters.add_assoc]

theorem absorb_empty : resolver.absorb {} = resolver := by
  simp [absorb, Counters.add_zero]

/-- A run of a resolver is the session of its service. -/
theorem run_eq_absorb (operations : List Operation) :
    resolver.run operations = resolver.absorb (resolver.service.run {} operations) := by
  rw [Service.run_eq_concat, Effects.empty_append]
  induction operations generalizing resolver with
  | nil => exact resolver.absorb_empty.symm
  | cons operation operations ih =>
      calc resolver.run (operation :: operations)
          = (resolver.perform operation).1.run operations := rfl
        _ = (resolver.perform operation).1.absorb (.concat (operations.map fun operation =>
              (resolver.service.perform operation).effects)) := by
            rw [ih, perform, service_absorb]
        _ = resolver.absorb (.concat ((operation :: operations).map fun operation =>
              (resolver.service.perform operation).effects)) := by
            rw [List.map_cons, Effects.concat_cons, absorb_append, perform]

theorem service_run (operations : List Operation) :
    (resolver.run operations).service = resolver.service := by
  rw [run_eq_absorb, service_absorb]

theorem run_append (first second : List Operation) :
    resolver.run (first ++ second) = (resolver.run first).run second :=
  List.foldl_append

/-- After any operations, an operation comes to what it comes to at first. -/
theorem perform_run (operations : List Operation) (operation : Operation) :
    (resolver.run operations).perform operation =
      ((resolver.run operations).absorb (resolver.service.perform operation).effects,
        (resolver.service.perform operation).value) := by
  rw [perform, service_run]

end Resolver

/-- After any two sequences of operations an operation has the same outcome and adds
the same effects, its own: the queries it has the client receive, the amounts it counts,
the entries it logs.  This includes the operation having been there before.  Operations
only add to what was received, and never change the table; so each query is answered as
it would be at first, whatever the client has received meanwhile. -/
theorem operations_independent (resolver : Resolver) (first second : List Operation)
    (operation : Operation) :
    ((resolver.run first).perform operation).2 =
        ((resolver.run second).perform operation).2 ∧
      ((resolver.run first).Adds (resolver.service.perform operation).effects
          ((resolver.run first).perform operation).1 ∧
        (resolver.run second).Adds (resolver.service.perform operation).effects
          ((resolver.run second).perform operation).1) ∧
      (∀ later, ((resolver.run (first ++ operation :: later)).perform operation).2 =
        ((resolver.run first).perform operation).2) ∧
      (∀ later, (resolver.run first).Adds (resolver.service.run {} later)
        (resolver.run (first ++ later))) ∧
      ∀ queries query, (((resolver.run first).client.receiving queries).call query).2 =
        resolver.client.table.answer query := by
  refine ⟨?_, ⟨?_, ?_⟩, ?_, ?_, ?_⟩
  · rw [Resolver.perform_run, Resolver.perform_run]
  · rw [Resolver.perform_run]
    exact Resolver.adds_absorb _ _
  · rw [Resolver.perform_run]
    exact Resolver.adds_absorb _ _
  · intro later
    rw [Resolver.perform_run, Resolver.perform_run]
  · intro later
    rw [Resolver.run_append, Resolver.run_eq_absorb (resolver.run first),
      Resolver.service_run]
    exact Resolver.adds_absorb _ _
  · intro queries query
    have htable : (resolver.run first).client.table = resolver.client.table := by
      rw [Resolver.run_eq_absorb]
      exact (resolver.adds_absorb _).table_eq
    rw [MemoryClient.answer_receiving, MemoryClient.call, htable]

end NestedQuery
