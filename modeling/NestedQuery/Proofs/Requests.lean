import NestedQuery.Http.Server
import NestedQuery.Proofs.Json.Writing
import NestedQuery.Proofs.Ledger
import NestedQuery.Proofs.SalesRows

/-!
# Requests

Every request is counted once and bracketed by two entries, whatever becomes of it in
between.  What happens in between is a resolution or nothing: a request that is not
routed, that its route refuses or that asks for no records sends nothing.  A resolution
counts what it sends, and no request; so after any requests the counters tell how many
there were, and what the client has received.

The status of a response tells how the resolution behind it has ended.  It is the
remote service that is to blame exactly if a query that was sent has failed.  The body
tells what was found: the rows of the records, or the counters when they were asked for.
-/

namespace NestedQuery

open Log (occurrences)

/-- The events that bracket a request. -/
def Log.Event.brackets : List Event := [.requestReceived, .requestComplete]

/-- The counters agree with a number of requests and with what was sent. -/
structure Effects.Counts (effects : Effects) (requests : Nat) : Prop where
  requests_eq : effects.counted.requests = requests.toUInt64
  remoteCalls_eq : effects.counted.remoteCalls = effects.sent.length.toUInt64

/-- No bracket of a request is logged. -/
def Effects.Silent (effects : Effects) : Prop :=
  ∀ event ∈ Log.Event.brackets, occurrences event effects.logged = 0

/-- What happens between the brackets of a request. -/
structure Effects.Between (effects : Effects) : Prop where
  counts : effects.Counts 0
  silent : effects.Silent

namespace Effects

theorem Counts.append {first second : Effects} {requests others : Nat}
    (hfirst : first.Counts requests) (hsecond : second.Counts others) :
    (first ++ second).Counts (requests + others) := by
  constructor
  · rw [toUInt64_add, ← hfirst.requests_eq, ← hsecond.requests_eq]
    rfl
  · rw [sent_append, List.length_append, toUInt64_add, ← hfirst.remoteCalls_eq,
      ← hsecond.remoteCalls_eq]
    rfl

theorem Silent.append {first second : Effects} (hfirst : first.Silent)
    (hsecond : second.Silent) : (first ++ second).Silent := by
  intro event hevent
  rw [logged_append, Log.occurrences_append, hfirst event hevent, hsecond event hevent]

theorem counts_empty : ({} : Effects).Counts 0 := ⟨rfl, rfl⟩

theorem between_empty : ({} : Effects).Between := ⟨counts_empty, fun _ _ => rfl⟩

theorem Booked.counts {effects : Effects} {rejections results records : Nat}
    (hbooked : effects.Booked rejections results records) : effects.Counts 0 := by
  rw [Booked] at hbooked
  constructor <;> rw [hbooked]
  rfl

end Effects

/-! ## Resolutions -/

/-- Executing a plan logs no bracket of a request. -/
theorem Plan.silent_execute {plan : Plan} (hbranching : plan.Branching) (answer : Answer)
    (resumption : Resumption) : (plan.execute answer resumption).effects.Silent := by
  intro event hevent
  apply Nat.eq_zero_of_le_zero
  calc occurrences event (plan.execute answer resumption).effects.logged
      ≤ occurrences event (plan.entries answer) :=
        Log.occurrences_le_of_subperm
          (logged_execute_subperm hbranching answer resumption) event
    _ = 0 := by
        rcases List.mem_pair.mp hevent with rfl | rfl <;>
          rw [occurrences_entries (by decide), occurrences_opening] <;> rfl

/-- A resolution that a response can tell: nothing is sent if it is rejected, and it
fails exactly if a query that it has sent does. -/
structure Answer.Tells (answer : Answer)
    (resolution : Traced (Except ResolveError (List Record))) : Prop where
  between : resolution.effects.Between
  rejected : ∀ why, resolution.value = .error (.rejected why) →
    resolution.effects.sent = []
  failed : (∃ error, resolution.value = .error (.remote error)) ↔
    ∃ query ∈ resolution.effects.sent, ∃ error, answer.failure? query = some error

namespace Service

variable {service : Service} {table : AnswerTable}

theorem silent_opening (limit : Nat) : (noting (scope limit).opening).Silent :=
  fun event _ => occurrences_opening event limit

theorem silent_closing (limit : Nat) (closing : Log.Closing) :
    (noting ((scope limit).closing closing)).Silent :=
  fun event _ => occurrences_closing event limit closing

theorem silent_rejecting (why : Rejection) : (rejecting why).Silent := by
  intro event hevent
  rcases List.mem_pair.mp hevent with rfl | rfl <;> rfl

theorem silent_finish (service : Service) (limit : Nat) (plan : Plan)
    (result : Except RemoteError (List Record)) :
    (service.finish limit plan result).effects.Silent := by
  rw [effects_finish]
  cases result with
  | error error => exact silent_closing limit _
  | ok records => exact fun event _ => occurrences_closing event limit _

theorem silent_resolve (service : Service) (filter : Option Filter)
    (sort : Option SortRequest) (limit : Nat) :
    (service.resolve filter sort limit).effects.Silent := by
  cases hplan : (service.plan filter sort limit).value with
  | error why =>
      rw [effects_resolve_rejected hplan]
      exact (silent_opening limit).append
        ((silent_rejecting why).append (silent_closing limit _))
  | ok plan =>
      rw [effects_resolve hplan]
      exact (silent_opening limit).append
        ((plan.silent_execute (branching_of_plan hplan) _ _).append
          (service.silent_finish limit plan _))

theorem tells_resolve (hclient : service.answer = table.answer) (filter : Option Filter)
    (sort : Option SortRequest) (limit : Nat) :
    service.answer.Tells (service.resolve filter sort limit) := by
  have hbetween : (service.resolve filter sort limit).effects.Between :=
    ⟨(settled_resolve hclient filter sort limit).booked.counts,
      service.silent_resolve filter sort limit⟩
  cases hplan : (service.plan filter sort limit).value with
  | error why =>
      have hsent := sent_resolve_rejected hplan
      refine ⟨hbetween, fun _ _ => hsent, ?_⟩
      rw [value_resolve_rejected hplan, hsent]
      simp
  | ok plan =>
      refine ⟨hbetween, fun why hrejected => ?_, ?_, ?_⟩
      · exact absurd hrejected (resolve_ne_rejected hplan why)
      · rintro ⟨error, hfailed⟩
        obtain ⟨query, hquery, hfailure⟩ := exists_sent_of_resolve_eq_error hplan hfailed
        exact ⟨query, hquery, error, hfailure⟩
      · rintro ⟨query, hquery, error, hfailure⟩
        cases hvalue : (service.resolve filter sort limit).value with
        | ok records =>
            rw [failure?_eq_none_of_resolve_eq_ok hplan hvalue query hquery] at hfailure
            cases hfailure
        | error ended =>
            cases ended with
            | rejected why => exact absurd hvalue (resolve_ne_rejected hplan why)
            | remote error => exact ⟨error, rfl⟩

theorem tells_resolveRequest (hclient : service.answer = table.answer)
    (request : ResolveRequest) (default : Nat) :
    service.answer.Tells (service.resolveRequest request default) := by
  cases hread : service.schema.readFilter request.filter with
  | error why =>
      have hbooked := (settled_resolveRequest hclient request default).booked
      rw [resolveRequest, hread] at hbooked ⊢
      refine ⟨⟨hbooked.counts, silent_rejecting why⟩, fun _ _ => rfl, ?_⟩
      exact iff_of_false (by rintro ⟨error, ⟨⟩⟩) (by rintro ⟨query, ⟨⟩, -⟩)
  | ok filter =>
      rw [resolveRequest, hread]
      exact tells_resolve hclient filter request.sort (request.limit default)

end Service

/-- The report of the counters is read back counter by counter. -/
theorem Counters.parse?_render_toJson (counters : Counters) :
    ∃ report, Json.parse? counters.toJson.render = some report ∧
      report.member? "requests" = some (.ofNat counters.requests) ∧
      report.member? "remote_calls" = some (.ofNat counters.remoteCalls) := by
  have hintegral : counters.toJson.Integral := by
    simp [toJson, Json.Integral, Json.MembersIntegral, Json.ofNat]
  have hdepth : counters.toJson.depth ≤ Json.depthLimit := by
    simp [toJson, Json.depth, Json.membersDepth, Json.ofNat, Json.depthLimit]
  have hdistinct : ["requests", "resolutions", "remote_calls", "remote_failures",
      "decompositions", "filters_rejected", "records_returned"].Nodup := by decide
  obtain ⟨report, hparse, hmember⟩ := Json.parse?_render_object hintegral hdepth
    (by simp [Json.MembersSettled, Json.Settled, Json.ofNat]) hdistinct
  exact ⟨report, hparse, hmember "requests", hmember "remote_calls"⟩

theorem Log.out_written_append (least : Severity) (first second : List Log.Entry) :
    (Log.written least (first ++ second)).out =
      (Log.written least first).out ++ (Log.written least second).out := by
  simp [Log.written]

namespace Http

/-- A response with the status and the body of another one. -/
structure Response.Repeats (response other : Response) : Prop where
  status_eq : response.status = other.status
  body_eq : response.body = other.body

/-! ## Routes -/

/-- The endpoints that list records, asked by the method they take. -/
inductive Request.Asks (request : Request) : Route → Prop
  | records (hmethod : request.method = "GET") (hpath : request.path = Route.records.path) :
      Asks request .records
  | sorted (hmethod : request.method = "GET") (hpath : request.path = Route.sorted.path) :
      Asks request .sorted
  | filtered (hmethod : request.method = "POST")
      (hpath : request.path = Route.filtered.path) : Asks request .filtered

namespace Server

variable {server : Server} {counters : Counters} {stamp : Stamp} {request : Request}
variable {route : Route}

/-- The resolution that a request to a route comes to, if the route lists records and
can read the request. -/
def resolution? (server : Server) (request : Request) :
    Route → Option (Traced (Except ResolveError (List Record)))
  | .health | .metrics => none
  | .records => some (server.service.resolve none none server.limit)
  | .sorted =>
      (SortRequest.ofQuery? request.query).map fun sort =>
        server.service.resolve none (some sort) server.limit
  | .filtered =>
      request.resolveRequest.toOption.map fun wanted =>
        server.service.resolveRequest wanted server.limit

/-- A response that stands for no resolution. -/
structure Unresolved (request : Request) (route : Route) (response : Response) :
    Prop where
  ok_or_refused : response.status = 200 ∨ response.status = 400
  refused_of_asks : request.Asks route → response.status = 400

/-- A resolution is answered with what it comes to. -/
theorem answer_of_resolution? (server : Server) (counters : Counters) (stamp : Stamp)
    {resolution : Traced (Except ResolveError (List Record))}
    (hresolution : server.resolution? request route = some resolution) :
    (server.answer counters stamp request route).value = .ofResolution resolution.value ∧
      (server.answer counters stamp request route).effects = resolution.effects := by
  cases route with
  | health => cases hresolution
  | metrics => cases hresolution
  | records =>
      cases hresolution
      exact ⟨rfl, Effects.append_empty _⟩
  | sorted =>
      obtain ⟨sort, hsort, rfl⟩ := Option.map_eq_some_iff.mp hresolution
      rw [answer, hsort]
      exact ⟨rfl, Effects.append_empty _⟩
  | filtered =>
      rw [resolution?] at hresolution
      cases hread : request.resolveRequest with
      | error flaw =>
          rw [hread] at hresolution
          cases hresolution
      | ok wanted =>
          rw [hread] at hresolution
          cases hresolution
          rw [answer, hread]
          exact ⟨rfl, Effects.append_empty _⟩

theorem answer_of_resolution?_eq_none (server : Server) (counters : Counters)
    (stamp : Stamp) (hnone : server.resolution? request route = none) :
    Unresolved request route (server.answer counters stamp request route).value ∧
      (server.answer counters stamp request route).effects = {} := by
  cases route with
  | health => exact ⟨⟨Or.inl rfl, by rintro ⟨⟩⟩, rfl⟩
  | metrics => exact ⟨⟨Or.inl rfl, by rintro ⟨⟩⟩, rfl⟩
  | records => cases hnone
  | sorted =>
      rw [answer, Option.map_eq_none_iff.mp hnone]
      exact ⟨⟨Or.inr rfl, fun _ => rfl⟩, rfl⟩
  | filtered =>
      rw [resolution?] at hnone
      cases hread : request.resolveRequest with
      | error flaw =>
          rw [answer, hread]
          exact ⟨⟨Or.inr rfl, fun _ => rfl⟩, rfl⟩
      | ok wanted =>
          rw [hread] at hnone
          cases hnone

theorem answer_cases (server : Server) (counters : Counters) (stamp : Stamp)
    (request : Request) (route : Route) :
    (∃ resolution, server.resolution? request route = some resolution ∧
        (server.answer counters stamp request route).value =
          .ofResolution resolution.value ∧
        (server.answer counters stamp request route).effects = resolution.effects) ∨
      Unresolved request route (server.answer counters stamp request route).value ∧
        (server.answer counters stamp request route).effects = {} := by
  cases hresolution : server.resolution? request route with
  | none => exact Or.inr (server.answer_of_resolution?_eq_none counters stamp hresolution)
  | some resolution =>
      exact Or.inl
        ⟨resolution, rfl, server.answer_of_resolution? counters stamp hresolution⟩

/-- An endpoint that lists records succeeds exactly if a resolution finds some. -/
theorem status_answer_eq_200_iff (hasks : request.Asks route) :
    (server.answer counters stamp request route).value.status = 200 ↔
      ∃ resolution records, server.resolution? request route = some resolution ∧
        resolution.value = .ok records := by
  cases hresolution : server.resolution? request route with
  | none =>
      obtain ⟨hunresolved, -⟩ :=
        server.answer_of_resolution?_eq_none counters stamp hresolution
      rw [hunresolved.refused_of_asks hasks]
      exact iff_of_false (by decide) (by rintro ⟨_, _, ⟨⟩, -⟩)
  | some resolution =>
      obtain ⟨hvalue, -⟩ := server.answer_of_resolution? counters stamp hresolution
      rw [hvalue]
      cases hresult : resolution.value with
      | ok records => exact iff_of_true rfl ⟨resolution, records, rfl, hresult⟩
      | error error =>
          apply iff_of_false
          · cases error <;> rintro ⟨⟩
          · rintro ⟨_, records, ⟨⟩, hfound⟩
            rw [hresult] at hfound
            cases hfound

theorem tells_of_resolution? {table : AnswerTable}
    (hclient : server.service.answer = table.answer)
    {resolution : Traced (Except ResolveError (List Record))}
    (hresolution : server.resolution? request route = some resolution) :
    table.answer.Tells resolution := by
  rw [← hclient]
  cases route with
  | health => cases hresolution
  | metrics => cases hresolution
  | records =>
      cases hresolution
      exact Service.tells_resolve hclient none none server.limit
  | sorted =>
      obtain ⟨sort, -, rfl⟩ := Option.map_eq_some_iff.mp hresolution
      exact Service.tells_resolve hclient none (some sort) server.limit
  | filtered =>
      obtain ⟨wanted, -, rfl⟩ := Option.map_eq_some_iff.mp hresolution
      exact Service.tells_resolveRequest hclient wanted server.limit

section Answering

variable {table : AnswerTable} (hclient : server.service.answer = table.answer)

include hclient

theorem between_answer (counters : Counters) (stamp : Stamp) (request : Request)
    (route : Route) : (server.answer counters stamp request route).effects.Between := by
  rcases server.answer_cases counters stamp request route with
    ⟨resolution, hresolution, -, heffects⟩ | ⟨-, heffects⟩
  · rw [heffects]
    exact (tells_of_resolution? hclient hresolution).between
  · rw [heffects]
    exact Effects.between_empty

/-- Only a request that is answered with records or with a failure sends anything. -/
theorem sent_answer_eq_nil
    (hok : (server.answer counters stamp request route).value.status ≠ 200)
    (hfailed : (server.answer counters stamp request route).value.status ≠ 502) :
    (server.answer counters stamp request route).effects.sent = [] := by
  rcases server.answer_cases counters stamp request route with
    ⟨resolution, hresolution, hvalue, heffects⟩ | ⟨-, heffects⟩
  · rw [hvalue] at hok hfailed
    rw [heffects]
    cases hresult : resolution.value with
    | ok records =>
        rw [hresult] at hok
        exact absurd rfl hok
    | error error =>
        rw [hresult] at hfailed
        cases error with
        | rejected why =>
            exact (tells_of_resolution? hclient hresolution).rejected why hresult
        | remote failure => exact absurd rfl hfailed
  · rw [heffects]

/-- An endpoint that lists records blames the remote service exactly if a query that it
has sent fails. -/
theorem status_answer_eq_502_iff (hasks : request.Asks route) :
    (server.answer counters stamp request route).value.status = 502 ↔
      ∃ query ∈ (server.answer counters stamp request route).effects.sent,
        ∃ error, table.answer.failure? query = some error := by
  rcases server.answer_cases counters stamp request route with
    ⟨resolution, hresolution, hvalue, heffects⟩ | ⟨hunresolved, heffects⟩
  · rw [hvalue, heffects, ← (tells_of_resolution? hclient hresolution).failed]
    cases resolution.value with
    | ok records => simp [Response.ofResolution, Response.ofJson]
    | error error =>
        cases error <;> simp [Response.ofResolution, Response.ofError, Response.ofJson,
          RequestError.status, ResolveError.isCallers]
  · rw [hunresolved.refused_of_asks hasks, heffects]
    simp

end Answering

/-! ## Responses -/

/-- A request to a route by a method that the route answers with a body. -/
theorem respond_of_path (server : Server) (counters : Counters) (stamp : Stamp)
    (hpath : request.path = route.path) (hmethod : request.method ∈ route.methods)
    (hhead : request.method ≠ "HEAD") :
    (server.respond counters stamp request).value =
        (server.answer counters stamp request route).value ∧
      (server.respond counters stamp request).effects =
        (server.answer counters stamp request route).effects := by
  have hroute : Route.ofPath? request.path = some route := by
    rw [hpath, Route.ofPath?_path]
  have hadmits : route.methods.contains request.method = true :=
    List.contains_iff_mem.mpr hmethod
  have hpreflight : request.method ≠ "OPTIONS" := by
    intro hoptions
    rw [hoptions] at hmethod
    cases route <;> simp [Route.methods] at hmethod
  rw [respond, hroute, if_neg hpreflight]
  simp only [hadmits, if_true, Traced.value_bind, Traced.effects_bind, if_neg hhead]
  exact ⟨rfl, Effects.append_empty _⟩

/-- A response has the status that a route has answered with, or nothing was done for
it. -/
theorem respond_cases (server : Server) (counters : Counters) (stamp : Stamp)
    (request : Request) :
    (∃ route, (server.respond counters stamp request).value.status =
          (server.answer counters stamp request route).value.status ∧
        (server.respond counters stamp request).effects =
          (server.answer counters stamp request route).effects) ∨
      (server.respond counters stamp request).effects = {} := by
  rw [respond]
  split
  · exact Or.inr rfl
  · split
    · exact Or.inr rfl
    · rename_i route _
      split
      · refine Or.inl ⟨route, ?_, Effects.append_empty _⟩
        simp only [Traced.value_bind]
        split <;> rfl
      · exact Or.inr rfl

end Server

/-! ## Brackets -/

/-- The entry that opens a request. -/
def Stamp.received (stamp : Stamp) (request : Request) : Log.Entry :=
  Log.Event.requestReceived.entry
    [("method", request.method), ("path", request.path), ("request_id", stamp.requestId)]

/-- The entry that closes a request. -/
def Stamp.completed (stamp : Stamp) (status : Nat) : Log.Entry :=
  Log.Event.requestComplete.entry
    [("elapsed_ms", stamp.elapsed), ("request_id", stamp.requestId),
      ("status", toString status)]

/-- A handled request is logged by what its handler logs between two entries that occur
nowhere else, the second with the status of the response.  So are its lines on the
output stream. -/
structure Bracketed (stamp : Stamp) (request : Request) (inner : List Log.Entry)
    (handled : Traced Response) : Prop where
  logged_eq : handled.effects.logged =
    stamp.received request :: (inner ++ [stamp.completed handled.value.status])
  received_once : occurrences .requestReceived handled.effects.logged = 1
  completed_once : occurrences .requestComplete handled.effects.logged = 1
  out_eq : (Log.written .info handled.effects.logged).out =
    (stamp.received request).line ::
      ((Log.written .info inner).out ++ [(stamp.completed handled.value.status).line])

/-- A body lists some records: it is an array with one object for each of them, in order,
whose members are what the row of the record shows. -/
def Lists (records : List Record) (body : String) : Prop :=
  ∃ rows : List SalesRow, List.Forall₂ SalesRow.StandsFor records rows ∧
    body = (Json.array (rows.map fun row => .object
      [("id", .string row.id), ("name", .string row.name), ("company", .string row.company),
        ("status", .string row.status), ("priority", .string row.priority),
        ("estimatedValue", .number (.real row.estimatedValue)),
        ("accountOwner", .string row.accountOwner)])).render

theorem lists_tableJson (records : List Record) :
    Lists records (SalesRow.tableJson records).render := by
  refine ⟨records.map SalesRow.ofRecord, ?_, ?_⟩
  · rw [List.forall₂_map_right_iff, List.forall₂_same]
    exact fun record _ => SalesRow.standsFor_ofRecord record
  · rw [SalesRow.tableJson, List.map_map]
    rfl

/-- What the response to a request tells of the request. -/
structure Classified (server : Server) (answer : Answer) (request : Request)
    (handled : Traced Response) : Prop where
  resolved : ∀ route, request.Asks route →
    (handled.value.status = 200 ↔
      ∃ resolution records, server.resolution? request route = some resolution ∧
        resolution.value = .ok records)
  rows : ∀ route resolution records, request.Asks route →
    server.resolution? request route = some resolution → resolution.value = .ok records →
    handled.effects.sent = resolution.effects.sent ∧ Lists records handled.value.body
  failed : ∀ route, request.Asks route →
    (handled.value.status = 502 ↔ ∃ query ∈ handled.effects.sent,
      ∃ error, answer.failure? query = some error)
  refused : handled.value.status ∈ [400, 404, 405] → handled.effects.sent = []

namespace Server

variable {server : Server} {counters : Counters} {stamp : Stamp} {request : Request}
variable {route : Route}

theorem effects_handle (server : Server) (counters : Counters) (stamp : Stamp)
    (request : Request) :
    (server.handle counters stamp request).effects =
      { counted := { requests := 1 }, logged := [stamp.received request] } ++
        ((server.respond (counters + { requests := 1 }) stamp request).effects ++
          Service.noting (stamp.completed
            (server.handle counters stamp request).value.status)) := by
  rw [handle]
  simp only [Traced.value_bind, Traced.effects_bind, Traced.effects_pure,
    Effects.append_empty]
  rw [← Effects.append_assoc]
  rfl

/-- Handling a request adds headers alone to the response. -/
theorem repeats_handle (server : Server) (counters : Counters) (stamp : Stamp)
    (request : Request) :
    (server.handle counters stamp request).value.Repeats
      (server.respond (counters + { requests := 1 }) stamp request).value := ⟨rfl, rfl⟩

theorem sent_handle (server : Server) (counters : Counters) (stamp : Stamp)
    (request : Request) :
    (server.handle counters stamp request).effects.sent =
      (server.respond (counters + { requests := 1 }) stamp request).effects.sent := by
  rw [effects_handle, Effects.sent_append, Effects.sent_append]
  exact (List.nil_append _).trans (List.append_nil _)

theorem handle_of_path (server : Server) (counters : Counters) (stamp : Stamp)
    (hpath : request.path = route.path) (hmethod : request.method ∈ route.methods)
    (hhead : request.method ≠ "HEAD") :
    (server.handle counters stamp request).value.Repeats
        (server.answer (counters + { requests := 1 }) stamp request route).value ∧
      (server.handle counters stamp request).effects.sent =
        (server.answer (counters + { requests := 1 }) stamp request route).effects.sent := by
  obtain ⟨hvalue, heffects⟩ := server.respond_of_path (counters + { requests := 1 }) stamp
    hpath hmethod hhead
  rw [sent_handle, ← hvalue, ← heffects]
  exact ⟨server.repeats_handle counters stamp request, rfl⟩

/-- An endpoint that lists records answers for the request. -/
theorem handle_of_asks (server : Server) (counters : Counters) (stamp : Stamp)
    (hasks : request.Asks route) :
    (server.handle counters stamp request).value.Repeats
        (server.answer (counters + { requests := 1 }) stamp request route).value ∧
      (server.handle counters stamp request).effects.sent =
        (server.answer (counters + { requests := 1 }) stamp request route).effects.sent := by
  have hpath : request.path = route.path := by cases hasks <;> assumption
  have hmethod : request.method ∈ route.methods := by
    cases hasks <;> simp [Route.methods, *]
  have hhead : request.method ≠ "HEAD" := by cases hasks <;> simp [*]
  exact server.handle_of_path counters stamp hpath hmethod hhead

theorem bracketed_handle (hbetween : (server.respond (counters + { requests := 1 }) stamp
      request).effects.Between) :
    Bracketed stamp request
      (server.respond (counters + { requests := 1 }) stamp request).effects.logged
      (server.handle counters stamp request) := by
  have hlogged : (server.handle counters stamp request).effects.logged =
      stamp.received request ::
        ((server.respond (counters + { requests := 1 }) stamp request).effects.logged ++
          [stamp.completed (server.handle counters stamp request).value.status]) := by
    rw [effects_handle]
    rfl
  have honce : ∀ event ∈ Log.Event.brackets,
      occurrences event (server.handle counters stamp request).effects.logged = 1 := by
    intro event hevent
    rw [hlogged, ← List.singleton_append, Log.occurrences_append, Log.occurrences_append,
      hbetween.silent event hevent,
      Log.occurrences_singleton .requestReceived rfl,
      Log.occurrences_singleton .requestComplete rfl]
    rcases List.mem_pair.mp hevent with rfl | rfl <;> rfl
  refine ⟨hlogged, honce _ (by decide), honce _ (by decide), ?_⟩
  rw [hlogged, ← List.singleton_append, Log.out_written_append, Log.out_written_append]
  rfl

/-! ## Runs -/

/-- What handling some requests has done. -/
def total (server : Server) (requests : List (Stamp × Request)) : Effects :=
  .concat ((server.handleAll {} requests).map Traced.effects)

theorem handleAll_append (server : Server) (past : Effects)
    (earlier later : List (Stamp × Request)) :
    server.handleAll past (earlier ++ later) =
      server.handleAll past earlier ++
        server.handleAll
          (past ++ .concat ((server.handleAll past earlier).map Traced.effects)) later := by
  induction earlier generalizing past with
  | nil => simp [handleAll]
  | cons first earlier ih =>
      obtain ⟨stamp, request⟩ := first
      rw [List.cons_append, handleAll, handleAll, ih, List.map_cons, Effects.concat_cons,
        Effects.append_assoc, List.cons_append]

theorem length_handleAll (server : Server) (past : Effects)
    (requests : List (Stamp × Request)) :
    (server.handleAll past requests).length = requests.length := by
  induction requests generalizing past with
  | nil => rfl
  | cons first requests ih =>
      obtain ⟨stamp, request⟩ := first
      rw [handleAll, List.length_cons, List.length_cons, ih]

/-- A request is handled after the counts of all requests before it. -/
theorem getElem?_handleAll (server : Server) (earlier : List (Stamp × Request))
    (stamp : Stamp) (request : Request) (later : List (Stamp × Request)) :
    (server.handleAll {} (earlier ++ (stamp, request) :: later))[earlier.length]? =
      some (server.handle (server.total earlier).counted stamp request) := by
  rw [handleAll_append, ← length_handleAll server {} earlier,
    List.getElem?_append_right (Nat.le_refl _), Nat.sub_self, Effects.empty_append]
  rfl

section Handling

variable {table : AnswerTable} (hclient : server.service.answer = table.answer)

include hclient

theorem between_respond (counters : Counters) (stamp : Stamp) (request : Request) :
    (server.respond counters stamp request).effects.Between := by
  rcases server.respond_cases counters stamp request with ⟨route, -, heffects⟩ | heffects
  · rw [heffects]
    exact between_answer hclient counters stamp request route
  · rw [heffects]
    exact Effects.between_empty

theorem counts_handle (counters : Counters) (stamp : Stamp) (request : Request) :
    (server.handle counters stamp request).effects.Counts 1 := by
  have hbetween := between_respond hclient (counters + { requests := 1 }) stamp request
  have hopening : ({ counted := { requests := 1 }
                     logged := [stamp.received request] } : Effects).Counts 1 := ⟨rfl, rfl⟩
  have hclosing : ∀ status, (Service.noting (stamp.completed status)).Counts 0 :=
    fun _ => ⟨rfl, rfl⟩
  rw [effects_handle]
  exact hopening.append (hbetween.counts.append (hclosing _))

/-- After any requests the counters tell how many they were, and what they sent. -/
theorem counts_total (requests : List (Stamp × Request)) :
    (server.total requests).Counts requests.length := by
  have hcounts : ∀ past, (Effects.concat ((server.handleAll past requests).map
      Traced.effects)).Counts requests.length := by
    induction requests with
    | nil => exact fun past => Effects.counts_empty
    | cons first requests ih =>
        intro past
        obtain ⟨stamp, request⟩ := first
        rw [handleAll, List.map_cons, Effects.concat_cons, List.length_cons, Nat.add_comm]
        exact (counts_handle hclient past.counted stamp request).append (ih _)
  exact hcounts {}

theorem classified_handle (counters : Counters) (stamp : Stamp) (request : Request) :
    Classified server table.answer request (server.handle counters stamp request) := by
  constructor
  · intro route hasks
    obtain ⟨hrepeats, -⟩ := server.handle_of_asks counters stamp hasks
    rw [hrepeats.status_eq]
    exact status_answer_eq_200_iff hasks
  · intro route resolution records hasks hresolution hfound
    obtain ⟨hrepeats, hsent⟩ := server.handle_of_asks counters stamp hasks
    obtain ⟨hvalue, heffects⟩ :=
      server.answer_of_resolution? (counters + { requests := 1 }) stamp hresolution
    rw [hsent, heffects, hrepeats.body_eq, hvalue, hfound]
    exact ⟨rfl, lists_tableJson records⟩
  · intro route hasks
    obtain ⟨hrepeats, hsent⟩ := server.handle_of_asks counters stamp hasks
    rw [hrepeats.status_eq, hsent]
    exact status_answer_eq_502_iff hclient hasks
  · intro hrefused
    rw [(server.repeats_handle counters stamp request).status_eq] at hrefused
    rw [sent_handle]
    rcases server.respond_cases (counters + { requests := 1 }) stamp request with
      ⟨route, hstatus, heffects⟩ | heffects
    · rw [hstatus] at hrefused
      rw [heffects]
      have hne : ∀ status, status ∉ [400, 404, 405] →
          (server.answer (counters + { requests := 1 }) stamp request route).value.status ≠
            status := fun status hnot heq => hnot (heq ▸ hrefused)
      exact sent_answer_eq_nil hclient (hne 200 (by decide)) (hne 502 (by decide))
    · rw [heffects]

end Handling

end Server

/-- However many requests of whatever kind are handled over a table, the counters tell
how many they were and how much the client has received, and so does the report that one
of the requests may ask for.  Each request is bracketed by two entries of its own, the
second with the status of its response.  The response is a success exactly if records
were found, and lists one row for each; one that blames the remote service stands for a
query that has failed, and for a request that is refused nothing is sent. -/
theorem requests_accounted_for (server : Server) (table : AnswerTable)
    (hclient : server.service.answer = table.answer) :
    (∀ requests, (server.total requests).Counts requests.length) ∧
      ∀ earlier stamp request later, ∃ inner handled,
        (server.handleAll {} (earlier ++ (stamp, request) :: later))[earlier.length]? =
            some handled ∧
          (request.method = "GET" → request.path = "/metrics" →
            handled.value.status = 200 ∧ handled.effects.sent = [] ∧
              ∃ report, Json.parse? handled.value.body = some report ∧
                report.member? "requests" =
                  some (.ofNat (earlier.length + 1).toUInt64) ∧
                report.member? "remote_calls" =
                  some (.ofNat (server.total earlier).sent.length.toUInt64)) ∧
          Bracketed stamp request inner handled ∧
          Classified server table.answer request handled := by
  refine ⟨Server.counts_total hclient, ?_⟩
  intro earlier stamp request later
  have hearlier := Server.counts_total hclient earlier
  refine ⟨_, _, server.getElem?_handleAll earlier stamp request later, ?_,
    Server.bracketed_handle (Server.between_respond hclient _ stamp request),
    Server.classified_handle hclient _ stamp request⟩
  intro hmethod hpath
  obtain ⟨hrepeats, hsent⟩ := server.handle_of_path (server.total earlier).counted stamp
    (show request.path = Route.metrics.path from hpath)
    (by simp [hmethod, Route.methods]) (by simp [hmethod])
  rw [hrepeats.status_eq, hrepeats.body_eq, hsent]
  have hthis : ({ counted := { requests := 1 } } : Effects).Counts 1 := ⟨rfl, rfl⟩
  have hcounts := hearlier.append hthis
  obtain ⟨report, hparse, hrequests, hcalls⟩ :=
    ((server.total earlier).counted + { requests := 1 }).parse?_render_toJson
  refine ⟨rfl, rfl, report, hparse, ?_, ?_⟩
  · rw [hrequests]
    exact congrArg (some ∘ Json.ofNat) hcounts.requests_eq
  · rw [hcalls]
    refine congrArg (some ∘ Json.ofNat) ?_
    simpa using hcounts.remoteCalls_eq

/-- A server over a table, with what the surroundings contribute to its answers. -/
def serverOver (table : AnswerTable) : Server where
  address := "127.0.0.1:0"
  service := ⟨.default, table.answer, "0", .afterPoll⟩
  limit := 2
  origins := .any

def firstStamp : Stamp where
  requestId := "1"
  timestamp := ""
  uptime := .integer 1 (by decide)
  elapsed := "0"

/-- A table that lists one record without cells, and one that fails to list any. -/
def bareAnswers : AnswerTable where
  fallback := [⟨"7", .empty⟩]

def downAnswers : AnswerTable where
  failures := [(none, .rejected "down")]

/-- The first of two requests is answered with a row, and the second reports both, and the
one query of the first.  Where this query fails, it is the remote service that is blamed. -/
theorem requests_accounted_for_bare :
    ((serverOver bareAnswers).service.answer = bareAnswers.answer ∧
      ∃ found metrics report,
        (serverOver bareAnswers).handleAll {}
            [(firstStamp, { path := "/api" }), (firstStamp, { path := "/metrics" })] =
          [found, metrics] ∧
        found.value.status = 200 ∧ Lists [⟨"7", .empty⟩] found.value.body ∧
        Json.parse? metrics.value.body = some report ∧
        report.member? "requests" = some (.ofNat 2) ∧
        report.member? "remote_calls" = some (.ofNat 1)) ∧
      ∃ failed, (serverOver downAnswers).handleAll {} [(firstStamp, { path := "/api" })] =
          [failed] ∧ failed.value.status = 502 := by
  constructor
  · obtain ⟨-, hhandled⟩ := requests_accounted_for (serverOver bareAnswers) bareAnswers rfl
    obtain ⟨-, found, hfound, -, -, hclassified⟩ := hhandled [] firstStamp
      { path := "/api" } [(firstStamp, { path := "/metrics" })]
    obtain ⟨-, metrics, hmetrics, hreported, -⟩ := hhandled
      [(firstStamp, { path := "/api" })] firstStamp { path := "/metrics" } []
    obtain ⟨-, -, report, hparse, hrequests, hcalls⟩ := hreported rfl rfl
    cases hfound
    cases hmetrics
    have hasks : Request.Asks { path := "/api" } .records := .records rfl rfl
    obtain ⟨-, hlists⟩ := hclassified.rows _ _ _ hasks rfl rfl
    exact ⟨rfl, _, _, report, rfl, (hclassified.resolved _ hasks).mpr ⟨_, _, rfl, rfl⟩,
      hlists, hparse, hrequests, hcalls⟩
  · obtain ⟨-, hhandled⟩ := requests_accounted_for (serverOver downAnswers) downAnswers rfl
    obtain ⟨-, failed, hfailed, -, -, hclassified⟩ := hhandled [] firstStamp
      { path := "/api" } []
    cases hfailed
    have hblamed := hclassified.failed .records (.records rfl rfl)
    refine ⟨_, rfl, hblamed.mpr ⟨⟨none, []⟩, List.mem_singleton_self _, .rejected "down", rfl⟩⟩

end Http

end NestedQuery
