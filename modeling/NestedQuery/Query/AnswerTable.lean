import NestedQuery.Query.Basic

/-!
# Answer tables

A client that answers from a fixed table.  Entries are matched by the wire form
of the filter alone; a failure wins over a response, the first match over later
ones, and a query without a match gets the fallback.  No query is refused.

Such a client may keep what it has received.  That has no bearing on what it
answers.
-/

namespace NestedQuery

structure AnswerTable where
  responses : List (Option Filter × List Record) := []
  failures : List (Option Filter × RemoteError) := []
  fallback : List Record := []

namespace AnswerTable

/-- Whether two optional filters have the same wire form. -/
def sameWire : Option Filter → Option Filter → Bool
  | none, none => true
  | some left, some right => left.toJson.agrees right.toJson
  | _, _ => false

def answer (table : AnswerTable) : Answer := fun query =>
  match table.failures.find? fun entry => sameWire entry.1 query.filter with
  | some (_, error) => .sent (.error error)
  | none =>
      match table.responses.find? fun entry => sameWire entry.1 query.filter with
      | some (_, records) => .sent (.ok { records })
      | none => .sent (.ok { records := table.fallback })

end AnswerTable

/-- A client that answers from a table and notes what it receives. -/
structure MemoryClient where
  table : AnswerTable
  received : List Query := []

namespace MemoryClient

/-- Notes a query and answers it. -/
def call (client : MemoryClient) (query : Query) : MemoryClient × Delivery :=
  ({ client with received := client.received ++ [query] }, client.table.answer query)

/-- The client after it has received some queries. -/
def receiving (client : MemoryClient) (queries : List Query) : MemoryClient :=
  queries.foldl (fun client query => (client.call query).1) client

variable (client : MemoryClient)

@[simp]
theorem receiving_nil : client.receiving [] = client := rfl

@[simp]
theorem receiving_cons (query : Query) (queries : List Query) :
    client.receiving (query :: queries) = (client.call query).1.receiving queries := rfl

theorem receiving_eq (queries : List Query) :
    client.receiving queries =
      { client with received := client.received ++ queries } := by
  induction queries generalizing client with
  | nil => simp
  | cons query queries ih => simp [ih, call]

/-- What was received before has no bearing on the answer to a query. -/
theorem answer_receiving (queries : List Query) (query : Query) :
    ((client.receiving queries).call query).2 = (client.call query).2 := by
  rw [receiving_eq, call, call]

end MemoryClient

end NestedQuery
