import Mathlib.Data.String.Basic
import NestedQuery.Command.Run
import NestedQuery.Proofs.Explanation
import NestedQuery.Proofs.Json.Texts
import NestedQuery.Proofs.Requests
import NestedQuery.Proofs.Resolution.Spreading

/-!
# The command and the server

The command reads its input as the server reads the body of a request, and both
resolve what they have read.  So one prints what the other responds, and both fail
alike: a document that is no request, a rejection, a remote failure.

They differ in when a waiting poll is asked for again.  Where a plan has wide groups
below its first step, the command sends the queries in another order, and leaves out
others if one fails.
-/

namespace NestedQuery

namespace Service

variable {service : Service} {request : ResolveRequest} {default : Nat}

/-- What a resolution comes to is what the execution of the explained plan comes to. -/
theorem resolveRequest_of_explain_eq_ok {plan : Plan}
    (hexplain : (service.explain request default).value = .ok plan) :
    (service.resolveRequest request default).value =
        (plan.execute service.answer service.resumption).value.mapError .remote ∧
      (service.resolveRequest request default).effects.sent =
        (plan.execute service.answer service.resumption).effects.sent := by
  obtain ⟨filter, hread, hplan⟩ := plan_of_explain hexplain
  rw [resolveRequest_of_readFilter hread]
  exact ⟨value_resolve hplan, sent_resolve hplan⟩

/-- A plan that is explained has children at every merge step. -/
theorem branching_of_explain {plan : Plan}
    (hexplain : (service.explain request default).value = .ok plan) :
    plan.Branching := by
  obtain ⟨filter, hread, hplan⟩ := plan_of_explain hexplain
  exact branching_of_plan hplan

end Service

/-! ## Two schedules -/

/-- Two results of one resolution: if both fail, it may be for different queries. -/
inductive Alike : Except ResolveError (List Record) →
    Except ResolveError (List Record) → Prop
  | same (result : Except ResolveError (List Record)) : Alike result result
  | failed (error other : RemoteError) :
      Alike (.error (.remote error)) (.error (.remote other))

theorem Plan.execute_ok_of_ok {plan : Plan} (hbranching : plan.Branching)
    {answer : Answer} {resumption : Resumption} (other : Resumption)
    {records : List Record}
    (hdone : (plan.execute answer resumption).value = .ok records) :
    (plan.execute answer other).value = .ok records :=
  (execute_eq_ok_iff hbranching records).mpr
    ((execute_eq_ok_iff hbranching records).mp hdone)

/-- Two executions of a plan come to the same records, or both fail. -/
theorem Plan.alike_execute {plan : Plan} (hbranching : plan.Branching) (answer : Answer)
    (resumption other : Resumption) :
    Alike ((plan.execute answer resumption).value.mapError .remote)
      ((plan.execute answer other).value.mapError .remote) := by
  cases hvalue : (plan.execute answer resumption).value with
  | ok records =>
      rw [execute_ok_of_ok hbranching other hvalue]
      exact .same _
  | error error =>
      cases hother : (plan.execute answer other).value with
      | ok records =>
          rw [execute_ok_of_ok hbranching resumption hother] at hvalue
          cases hvalue
      | error other => exact .failed error other

namespace Service

variable {service : Service} {request : ResolveRequest} {default : Nat}

/-- The service, when waiting polls are asked for again at another time. -/
def resuming (service : Service) (resumption : Resumption) : Service :=
  { service with resumption }

/-- Explaining does not poll. -/
theorem value_explain_resuming (service : Service) (resumption : Resumption)
    (request : ResolveRequest) (default : Nat) :
    ((service.resuming resumption).explain request default).value =
      (service.explain request default).value := rfl

theorem alike_resolveRequest (service : Service) (resumption : Resumption)
    (request : ResolveRequest) (default : Nat) :
    Alike ((service.resuming resumption).resolveRequest request default).value
      (service.resolveRequest request default).value := by
  have hother := service.value_explain_resuming resumption request default
  cases hexplain : (service.explain request default).value with
  | error why =>
      rw [hexplain] at hother
      rw [(resolveRequest_of_explain_eq_error hexplain).1,
        (resolveRequest_of_explain_eq_error hother).1]
      exact .same _
  | ok plan =>
      rw [hexplain] at hother
      rw [(resolveRequest_of_explain_eq_ok hexplain).1,
        (resolveRequest_of_explain_eq_ok hother).1]
      exact Plan.alike_execute (branching_of_explain hexplain) _ _ _

/-- A resolution that succeeds sends the queries of its plan. -/
theorem sent_resolveRequest_perm {records : List Record}
    (hdone : (service.resolveRequest request default).value = .ok records) :
    ∃ plan, (service.explain request default).value = .ok plan ∧
      (service.resolveRequest request default).effects.sent.Perm plan.queries := by
  cases hexplain : (service.explain request default).value with
  | error why =>
      rw [(resolveRequest_of_explain_eq_error hexplain).1] at hdone
      cases hdone
  | ok plan =>
      obtain ⟨filter, hread, hplan⟩ := plan_of_explain hexplain
      rw [resolveRequest_of_readFilter hread] at hdone ⊢
      exact ⟨plan, rfl, sent_resolve_perm hplan hdone⟩

theorem sent_perm_resuming (resumption : Resumption) {records : List Record}
    (hdone : (service.resolveRequest request default).value = .ok records)
    (hother : ((service.resuming resumption).resolveRequest request default).value =
      .ok records) :
    ((service.resuming resumption).resolveRequest request default).effects.sent.Perm
      (service.resolveRequest request default).effects.sent := by
  obtain ⟨plan, hplan, hsent⟩ := sent_resolveRequest_perm hdone
  obtain ⟨same, hsame, hsent'⟩ := sent_resolveRequest_perm hother
  rw [value_explain_resuming, hplan] at hsame
  cases hsame
  exact hsent'.trans hsent.symm

/-- A shallow plan is carried out in the same way, whatever the schedule. -/
theorem resolveRequest_of_shallow {table : AnswerTable}
    (hclient : service.answer = table.answer) (resumption : Resumption)
    (hshallow : ∀ plan, (service.explain request default).value = .ok plan →
      plan.Shallow) :
    ((service.resuming resumption).resolveRequest request default).value =
        (service.resolveRequest request default).value ∧
      ((service.resuming resumption).resolveRequest request default).effects.sent =
        (service.resolveRequest request default).effects.sent := by
  have hother := service.value_explain_resuming resumption request default
  cases hexplain : (service.explain request default).value with
  | error why =>
      rw [hexplain] at hother
      obtain ⟨hvalue, hsent⟩ := resolveRequest_of_explain_eq_error hexplain
      obtain ⟨hvalue', hsent'⟩ := resolveRequest_of_explain_eq_error hother
      rw [hvalue, hvalue', hsent, hsent']
      exact ⟨rfl, rfl⟩
  | ok plan =>
      rw [hexplain] at hother
      have hsends : ∀ query ∈ plan.queries, ∃ reply,
          service.answer query = .sent reply := by
        rw [hclient]
        exact fun query _ => table.exists_answer_eq_sent query
      have hbranching := branching_of_explain hexplain
      have hplan := hshallow plan hexplain
      obtain ⟨hvalue, hsent⟩ := resolveRequest_of_explain_eq_ok hexplain
      obtain ⟨hvalue', hsent'⟩ := resolveRequest_of_explain_eq_ok hother
      obtain ⟨hown, hqueries⟩ :=
        Plan.execute_of_shallow service.resumption hbranching hplan hsends
      obtain ⟨hown', hqueries'⟩ :=
        Plan.execute_of_shallow resumption hbranching hplan hsends
      rw [hown] at hvalue
      rw [hqueries] at hsent
      rw [hvalue, hsent]
      exact ⟨hvalue'.trans (congrArg _ hown'), hsent'.trans hqueries'⟩

end Service

/-! ## Answers -/

namespace Http

/-- A response whose body tells a code and a message. -/
def Response.Tells (response : Response) (code message : String) : Prop :=
  response.body =
    (Json.object [("error", .string message), ("code", .string code)]).render

theorem tells_ofError_iff {error : RequestError} {code message : String} :
    (Response.ofError error).Tells code message ↔
      error.code = code ∧ error.message = message := by
  constructor
  · intro htells
    exact (Json.render_strings_inj htells).symm
  · rintro ⟨rfl, rfl⟩
    rfl

/-- A request that posts a text as JSON, to be resolved. -/
structure Request.Posts (request : Request) (text : String) : Prop where
  method_eq : request.method = "POST"
  path_eq : request.path = Route.filtered.path
  type_eq : request.header? "content-type" = some "application/json"
  body_eq : request.body = text.toUTF8

end Http

/-- The codes of the reasons to refuse a filter or a sort. -/
def Rejection.codes : List String :=
  ["FLATQUERY_FILTER_MALFORMED", "FLATQUERY_FILTER_MISSING_PROPERTY",
    "FLATQUERY_FILTER_UNSUPPORTED_PROPERTY_TYPE", "FLATQUERY_FILTER_UNSUPPORTED_OPERATOR",
    "FLATQUERY_SORT_INVALID_PROPERTY"]

theorem Rejection.code_mem_codes (why : Rejection) : why.code ∈ codes := by
  cases why <;> simp [code, codes]

namespace Command

/-- A command that fails with a code and a message. -/
def Fails (result : Except CommandError String) (code message : String) : Prop :=
  ∃ error, result = .error error ∧ error.code = code ∧ error.message = message

/-- A command and a response say the same, except that two failing queries may be
told differently. -/
structure Agrees (result : Except CommandError String) (response : Http.Response) :
    Prop where
  printed : ∀ text, result = .ok text ↔
    response.status = 200 ∧ text = response.body ++ "\n"
  rejected : ∀ message, Fails result "FLATQUERY_CLI_REQUEST_REJECTED" message ↔
    response.status = 400 ∧ ∃ code ∈ Rejection.codes, ∃ reason,
      response.Tells code reason ∧ message = code ++ ": " ++ reason
  unread : (∃ message, Fails result "FLATQUERY_CLI_IO_ERROR" message) ↔
    response.status = 400 ∧ ∃ reason, response.Tells "FLATQUERY_API_INVALID_BODY" reason
  failed : (∃ message, Fails result "FLATQUERY_CLI_REMOTE_FAILED" message) ↔
    response.status = 502

/-- What the command makes of a resolution. -/
def ofResolution : Except ResolveError (List Record) → Except CommandError String
  | .ok records => .ok (document (SalesRow.tableJson records))
  | .error error => .error (.ofResolve error)

theorem fails_error_iff {error : CommandError} {code message : String} :
    Fails (.error error) code message ↔ error.code = code ∧ error.message = message := by
  constructor
  · rintro ⟨same, ⟨⟩, hfails⟩
    exact hfails
  · exact fun hfails => ⟨error, rfl, hfails⟩

theorem not_fails_ok {text code message : String} : ¬Fails (.ok text) code message := by
  rintro ⟨error, ⟨⟩, -⟩

/-- A code that is not the one of the error is not failed with. -/
theorem not_fails_of_ne {error : CommandError} {code : String} (hcode : error.code ≠ code)
    (message : String) : ¬Fails (.error error) code message :=
  fun hfails => hcode (fails_error_iff.mp hfails).1

theorem agrees_found (records : List Record) :
    Agrees (.ok (document (SalesRow.tableJson records)))
      (.ofResolution (.ok records)) where
  printed text := by
    constructor
    · rintro ⟨⟩
      exact ⟨rfl, rfl⟩
    · rintro ⟨-, rfl⟩
      rfl
  rejected _ := iff_of_false not_fails_ok (by rintro ⟨⟨⟩, -⟩)
  unread := iff_of_false (not_exists.mpr fun _ => not_fails_ok) (by rintro ⟨⟨⟩, -⟩)
  failed := iff_of_false (not_exists.mpr fun _ => not_fails_ok) (by rintro ⟨⟩)

theorem agrees_rejected (why : Rejection) :
    Agrees (.error (.rejected why)) (.ofError (.resolution (.rejected why))) where
  printed _ := iff_of_false (by rintro ⟨⟩) (by rintro ⟨⟨⟩, -⟩)
  rejected message := by
    rw [fails_error_iff]
    constructor
    · rintro ⟨-, rfl⟩
      exact ⟨rfl, why.code, why.code_mem_codes, why.message,
        Http.tells_ofError_iff.mpr ⟨rfl, rfl⟩, rfl⟩
    · rintro ⟨-, code, -, reason, htells, rfl⟩
      obtain ⟨rfl, rfl⟩ := Http.tells_ofError_iff.mp htells
      exact ⟨rfl, rfl⟩
  unread := by
    apply iff_of_false (not_exists.mpr (not_fails_of_ne (by simp [CommandError.code])))
    rintro ⟨-, reason, htells⟩
    obtain ⟨hcode, -⟩ := Http.tells_ofError_iff.mp htells
    have hmem := why.code_mem_codes
    rw [show why.code = _ from hcode] at hmem
    revert hmem
    decide
  failed := by
    apply iff_of_false (not_exists.mpr (not_fails_of_ne (by simp [CommandError.code])))
    rintro ⟨⟩

theorem agrees_failed (error other : RemoteError) :
    Agrees (.error (.remote error)) (.ofError (.resolution (.remote other))) where
  printed _ := iff_of_false (by rintro ⟨⟩) (by rintro ⟨⟨⟩, -⟩)
  rejected message :=
    iff_of_false (not_fails_of_ne (by simp [CommandError.code]) message)
      (by rintro ⟨⟨⟩, -⟩)
  unread :=
    iff_of_false (not_exists.mpr (not_fails_of_ne (by simp [CommandError.code])))
      (by rintro ⟨⟨⟩, -⟩)
  failed := iff_of_true ⟨error.message, fails_error_iff.mpr ⟨rfl, rfl⟩⟩ rfl

theorem agrees_unread (flaw : InputFlaw) (flaw' : Http.BodyFlaw) :
    Agrees (.error (.input flaw)) (.ofError (.invalidBody flaw')) where
  printed _ := iff_of_false (by rintro ⟨⟩) (by rintro ⟨⟨⟩, -⟩)
  rejected message := by
    apply iff_of_false (not_fails_of_ne (by simp [CommandError.code]) message)
    rintro ⟨-, code, hmem, reason, htells, -⟩
    obtain ⟨rfl, -⟩ := Http.tells_ofError_iff.mp htells
    revert hmem
    simp [Http.RequestError.code, Rejection.codes]
  unread :=
    iff_of_true ⟨flaw.message, fails_error_iff.mpr ⟨rfl, rfl⟩⟩
      ⟨rfl, _, Http.tells_ofError_iff.mpr ⟨rfl, rfl⟩⟩
  failed := by
    apply iff_of_false (not_exists.mpr (not_fails_of_ne (by simp [CommandError.code])))
    rintro ⟨⟩

theorem agrees_of_alike {left right : Except ResolveError (List Record)}
    (halike : Alike left right) :
    Agrees (ofResolution left) (.ofResolution right) := by
  cases halike with
  | failed error other => exact agrees_failed error other
  | same =>
      cases left with
      | ok records => exact agrees_found records
      | error error =>
          cases error with
          | rejected why => exact agrees_rejected why
          | remote error => exact agrees_failed error error

/-- The command has found records if and only if the server has. -/
theorem exists_of_ofResolution {left right : Except ResolveError (List Record)}
    (halike : Alike left right) {text : String} (hdone : ofResolution left = .ok text) :
    ∃ records, left = .ok records ∧ right = .ok records := by
  cases halike with
  | failed error other => cases hdone
  | same =>
      cases left with
      | ok records => exact ⟨records, rfl, rfl⟩
      | error error => cases hdone

/-- The command and the server tell the remote failure of one result with the same
words. -/
theorem fails_ofResolution_iff (result : Except ResolveError (List Record))
    (message : String) :
    Fails (ofResolution result) "FLATQUERY_CLI_REMOTE_FAILED" message ↔
      (Http.Response.ofResolution result).status = 502 ∧
        ∃ code, (Http.Response.ofResolution result).Tells code message := by
  cases result with
  | ok records => exact iff_of_false not_fails_ok (by rintro ⟨⟨⟩, -⟩)
  | error error =>
      cases error with
      | rejected why =>
          refine iff_of_false (not_fails_of_ne ?_ message) (by rintro ⟨⟨⟩, -⟩)
          simp [CommandError.ofResolve, CommandError.code]
      | remote error =>
          rw [ofResolution, fails_error_iff]
          constructor
          · rintro ⟨-, rfl⟩
            exact ⟨rfl, _, Http.tells_ofError_iff.mpr ⟨rfl, rfl⟩⟩
          · rintro ⟨-, code, htells⟩
            exact ⟨rfl, (Http.tells_ofError_iff.mp htells).2⟩

/-! ## Inputs and requests -/

theorem readRequest_toUTF8 (text : String) : readRequest text.toUTF8 = ofText text := by
  rw [readRequest, Text.fromUTF8?_eq_some_iff.mpr rfl]

theorem readRequest_of_isDocument {text : String}
    (hdocument : Json.isDocument text = true) :
    readRequest text.toUTF8 =
      (ResolveRequest.decode (Json.readPrefix text)).mapError
        fun _ => .input .notRequest := by
  rw [readRequest_toUTF8, ofText, Json.not_isBlank_of_isDocument hdocument,
    Json.read_eq_readPrefix hdocument]
  cases ResolveRequest.decode (Json.readPrefix text) <;> rfl

theorem runQuery_of_eq_error {service : Service} {default : Nat} {input : ByteArray}
    {error : CommandError} (hread : readRequest input = .error error) :
    runQuery service default input = pure (.error error) := by
  rw [runQuery, hread]

theorem runQuery_of_eq_ok {service : Service} {default : Nat} {input : ByteArray}
    {request : ResolveRequest} (hread : readRequest input = .ok request) :
    (runQuery service default input).value =
        ofResolution
          ((service.resuming .duringPoll).resolveRequest request default).value ∧
      (runQuery service default input).effects.sent =
        ((service.resuming .duringPoll).resolveRequest request default).effects.sent := by
  rw [runQuery, hread, ← Service.resuming]
  simp only [Traced.value_bind, Traced.effects_bind, Effects.sent_append]
  generalize (service.resuming .duringPoll).resolveRequest request default = resolved
  obtain ⟨result, effects⟩ := resolved
  cases result with
  | ok records => exact ⟨rfl, List.append_nil _⟩
  | error error => exact ⟨rfl, List.append_nil _⟩

end Command

namespace Http

theorem Request.Posts.asks {request : Request} {text : String}
    (hposts : request.Posts text) : request.Asks .filtered :=
  .filtered hposts.method_eq hposts.path_eq

theorem Request.Posts.resolveRequest_eq {request : Request} {text : String}
    (hposts : request.Posts text) (hlength : text.utf8ByteSize ≤ bodyLimit) :
    request.resolveRequest =
      (ResolveRequest.decode (Json.readPrefix text)).mapError .fault := by
  have hjson : MediaType.isJson "application/json" = true := by decide
  have hfits : ¬bodyLimit < text.toUTF8.size := Nat.not_lt.mpr hlength
  rw [Request.resolveRequest, hposts.type_eq, hposts.body_eq, Option.elim_some, hjson,
    Json.readBytes_toUTF8, if_neg hfits]
  rfl

namespace Server

variable {server : Server} {counters : Counters} {stamp : Stamp} {request : Request}

/-- The server refuses a document that is no request. -/
theorem answer_of_decode_eq_error {text : String} (hposts : request.Posts text)
    (hlength : text.utf8ByteSize ≤ bodyLimit) {fault : Json.Fault}
    (hdecode : ResolveRequest.decode (Json.readPrefix text) = .error fault) :
    server.answer counters stamp request .filtered =
      pure (.ofError (.invalidBody (.fault fault))) := by
  rw [answer, hposts.resolveRequest_eq hlength, hdecode]
  rfl

/-- The server resolves the request of a document. -/
theorem answer_of_decode_eq_ok {text : String} (hposts : request.Posts text)
    (hlength : text.utf8ByteSize ≤ bodyLimit) {wanted : ResolveRequest}
    (hdecode : ResolveRequest.decode (Json.readPrefix text) = .ok wanted) :
    (server.answer counters stamp request .filtered).value =
        .ofResolution (server.service.resolveRequest wanted server.limit).value ∧
      (server.answer counters stamp request .filtered).effects.sent =
        (server.service.resolveRequest wanted server.limit).effects.sent := by
  rw [answer, hposts.resolveRequest_eq hlength, hdecode]
  exact ⟨rfl, congrArg Effects.sent (Effects.append_empty _)⟩

end Server

end Http

namespace Command

theorem Agrees.repeated {result : Except CommandError String}
    {response other : Http.Response} (hagrees : Agrees result other)
    (hrepeats : response.Repeats other) : Agrees result response := by
  obtain ⟨status, headers, body⟩ := response
  obtain ⟨status', headers', body'⟩ := other
  obtain ⟨hstatus, hbody⟩ := hrepeats
  dsimp only at hstatus hbody
  subst hstatus hbody
  exact ⟨hagrees.printed, hagrees.rejected, hagrees.unread, hagrees.failed⟩

/-- A plan that an input comes to. -/
def Plans (service : Service) (default : Nat) (input : ByteArray) (plan : Plan) : Prop :=
  ∃ request, readRequest input = .ok request ∧
    (service.explain request default).value = .ok plan

/-- A one-shot command that fails writes nothing. -/
theorem Surroundings.out_oneShot (surroundings : Surroundings)
    (loaded : Except ConfigError Config) (limit : Option UInt64)
    (command : Service → Nat → ByteArray → Traced (Except CommandError String))
    (hfailed : (surroundings.oneShot loaded limit command).code ≠ 0) :
    (surroundings.oneShot loaded limit command).out = "" := by
  cases loaded with
  | error error => rfl
  | ok config =>
      rw [oneShot] at hfailed ⊢
      split
      · rename_i text hdone
        rw [hdone] at hfailed
        exact absurd rfl hfailed
      · rfl

/-- What the command makes of an input and what the server makes of a request agree:
they say the same, and if they find records, they send the same queries. -/
structure AnswersAlike (command : Traced (Except CommandError String))
    (handled : Traced Http.Response) : Prop where
  agrees : Agrees command.value handled.value
  sent_perm : ∀ text, command.value = .ok text →
    command.effects.sent.Perm handled.effects.sent

/-- They send the same queries in the same order, and tell the same failure. -/
structure AnswersInOrder (command : Traced (Except CommandError String))
    (handled : Traced Http.Response) : Prop where
  sent_eq : command.effects.sent = handled.effects.sent
  failed : ∀ message, Fails command.value "FLATQUERY_CLI_REMOTE_FAILED" message ↔
    handled.value.status = 502 ∧ ∃ code, handled.value.Tells code message

section Document

variable {server : Http.Server} {counters : Counters} {stamp : Http.Stamp}
variable {request : Http.Request} {text : String}
variable (hdocument : Json.isDocument text = true)
variable (hlength : text.utf8ByteSize ≤ Http.bodyLimit) (hposts : request.Posts text)

include hdocument hlength hposts

theorem answers_unread {fault : Json.Fault}
    (hdecode : ResolveRequest.decode (Json.readPrefix text) = .error fault) :
    AnswersAlike (runQuery server.service server.limit text.toUTF8)
        (server.handle counters stamp request) ∧
      AnswersInOrder (runQuery server.service server.limit text.toUTF8)
        (server.handle counters stamp request) := by
  have hread := readRequest_of_isDocument hdocument
  obtain ⟨hrepeats, hsent⟩ :=
    server.handle_of_asks counters stamp hposts.asks
  rw [hdecode] at hread
  rw [Http.Server.answer_of_decode_eq_error hposts hlength hdecode] at hrepeats hsent
  have hagrees := (agrees_unread .notRequest (.fault fault)).repeated hrepeats
  rw [runQuery_of_eq_error hread]
  refine ⟨⟨hagrees, ?_⟩, ⟨hsent.symm, ?_⟩⟩
  · rintro text ⟨⟩
  · intro message
    apply iff_of_false (not_fails_of_ne (by simp [CommandError.code]) message)
    rintro ⟨hstatus, -⟩
    rw [hrepeats.status_eq] at hstatus
    cases hstatus

variable {wanted : ResolveRequest}
variable (hdecode : ResolveRequest.decode (Json.readPrefix text) = .ok wanted)

include hdecode

/-- The command and the server resolve the request they have read. -/
theorem resolved_of_read :
    readRequest text.toUTF8 = .ok wanted ∧
      ((runQuery server.service server.limit text.toUTF8).value =
          ofResolution ((server.service.resuming .duringPoll).resolveRequest wanted
            server.limit).value ∧
        (runQuery server.service server.limit text.toUTF8).effects.sent =
          ((server.service.resuming .duringPoll).resolveRequest wanted
            server.limit).effects.sent) ∧
      (server.handle counters stamp request).value.Repeats
          (.ofResolution (server.service.resolveRequest wanted server.limit).value) ∧
        (server.handle counters stamp request).effects.sent =
          (server.service.resolveRequest wanted server.limit).effects.sent := by
  have hread := readRequest_of_isDocument hdocument
  rw [hdecode] at hread
  obtain ⟨hrepeats, hsent⟩ :=
    server.handle_of_asks counters stamp hposts.asks
  obtain ⟨hresponse, hanswer⟩ := @Http.Server.answer_of_decode_eq_ok server
    (counters + { requests := 1 }) stamp request text hposts hlength wanted hdecode
  rw [hresponse] at hrepeats
  exact ⟨hread, runQuery_of_eq_ok hread, hrepeats, hsent.trans hanswer⟩

theorem answersAlike_of_read :
    AnswersAlike (runQuery server.service server.limit text.toUTF8)
      (server.handle counters stamp request) := by
  obtain ⟨-, ⟨hprinted, hqueries⟩, hrepeats, hsent⟩ :=
    @resolved_of_read server counters stamp request text hdocument hlength hposts wanted
      hdecode
  have halike := server.service.alike_resolveRequest .duringPoll wanted server.limit
  constructor
  · rw [hprinted]
    exact (agrees_of_alike halike).repeated hrepeats
  · intro printed hdone
    rw [hprinted] at hdone
    obtain ⟨records, hown, hother⟩ := exists_of_ofResolution halike hdone
    rw [hqueries, hsent]
    exact Service.sent_perm_resuming .duringPoll hother hown

theorem answersInOrder_of_read {table : AnswerTable}
    (hclient : server.service.answer = table.answer)
    (hshallow : ∀ plan, Plans server.service server.limit text.toUTF8 plan →
      plan.Shallow) :
    AnswersInOrder (runQuery server.service server.limit text.toUTF8)
      (server.handle counters stamp request) := by
  obtain ⟨hread, ⟨hprinted, hqueries⟩, hrepeats, hsent⟩ :=
    @resolved_of_read server counters stamp request text hdocument hlength hposts wanted
      hdecode
  obtain ⟨hvalue, hsame⟩ := Service.resolveRequest_of_shallow hclient .duringPoll
    fun plan hplan => hshallow plan ⟨wanted, hread, hplan⟩
  constructor
  · rw [hqueries, hsame, hsent]
  · intro message
    rw [hprinted, hvalue, fails_ofResolution_iff, hrepeats.status_eq]
    simp only [Http.Response.Tells, hrepeats.body_eq]

end Document

end Command

/-- The command prints what the server responds to the same document, and fails as the
server does.  If records are found, both send the same queries.  If no merge step below
the first of the plan is wide, both send the same queries in the same order, and tell
the same remote failure.  A command that fails writes nothing. -/
theorem command_answers_as_server (server : Http.Server) (table : AnswerTable)
    (counters : Counters) (stamp : Http.Stamp) (request : Http.Request) (text : String)
    (hclient : server.service.answer = table.answer)
    (hdocument : Json.isDocument text = true)
    (hlength : text.utf8ByteSize ≤ Http.bodyLimit) (hposts : request.Posts text) :
    Command.AnswersAlike (Command.runQuery server.service server.limit text.toUTF8)
        (server.handle counters stamp request) ∧
      ((∀ plan, Command.Plans server.service server.limit text.toUTF8 plan →
          plan.Shallow) →
        Command.AnswersInOrder (Command.runQuery server.service server.limit text.toUTF8)
          (server.handle counters stamp request)) ∧
      ∀ (surroundings : Command.Surroundings) (path : Option String)
        (limit : Option UInt64),
        (surroundings.runInvocation (.query path limit)).code ≠ 0 →
          (surroundings.runInvocation (.query path limit)).out = "" := by
  refine ⟨?_, ?_, fun surroundings path limit => surroundings.out_oneShot _ _ _⟩
  · cases hdecode : ResolveRequest.decode (Json.readPrefix text) with
    | error fault => exact (Command.answers_unread hdocument hlength hposts hdecode).1
    | ok wanted => exact Command.answersAlike_of_read hdocument hlength hposts hdecode
  · intro hshallow
    cases hdecode : ResolveRequest.decode (Json.readPrefix text) with
    | error fault => exact (Command.answers_unread hdocument hlength hposts hdecode).2
    | ok wanted =>
        exact Command.answersInOrder_of_read hdocument hlength hposts hdecode hclient
          hshallow

/-- A server over the service whose queries fail. -/
def failingServer : Http.Server :=
  { address := "127.0.0.1:8080", service := failingService, limit := 2, origins := .any }

/-- A request that posts a text to be resolved. -/
def posting (text : String) : Http.Request :=
  { method := "POST", path := "/api/sort-filter"
    headers := [("content-type", "application/json")], body := text }

theorem posts_posting (text : String) : (posting text).Posts text := by
  have htype : [("content-type", "application/json")].find?
      (fun header => header.1.toLower == "content-type") =
        some ("content-type", "application/json") := by decide +kernel
  exact ⟨rfl, rfl, congrArg (Option.map Prod.snd) htype, rfl⟩

def stamp : Http.Stamp :=
  { requestId := "1", timestamp := "", uptime := .integer 0 (by decide), elapsed := "0" }

/-- A text that a request can be posted as. -/
structure Posted (request : ResolveRequest) (text : String) : Prop where
  document : Json.isDocument text = true
  length_le : text.utf8ByteSize ≤ Http.bodyLimit
  decode_eq : ResolveRequest.decode (Json.readPrefix text) = .ok request

theorem posted_of_chars {request : ResolveRequest} {chars : List Char}
    (hrest : (Json.readValue (Json.readingFuel chars) 0 chars).2 = some [])
    (hdecode : ResolveRequest.decode (Json.readValue (Json.readingFuel chars) 0 chars).1 =
      .ok request) (hlength : String.utf8Len chars ≤ Http.bodyLimit) :
    Posted request (String.ofList chars) := by
  refine ⟨?_, ?_, ?_⟩
  · rw [Json.isDocument, String.toList_ofList]
    split
    · rename_i hread
      rw [hread] at hrest
      cases hrest
      rfl
    · rename_i hread
      rw [hread] at hrest
      cases hrest
  · rw [String.utf8ByteSize_ofList]
    exact hlength
  · rw [Json.readPrefix, String.toList_ofList]
    exact hdecode

/-- Both send two queries, of which the first fails, and tell its failure. -/
theorem command_answers_as_server_failing :
    Posted failingRequest failingRequest.toJson.render ∧
      Command.AnswersInOrder
        (Command.runQuery failingService 2 failingRequest.toJson.render.toUTF8)
        (failingServer.handle {} stamp (posting failingRequest.toJson.render)) ∧
      Command.Fails
        (Command.runQuery failingService 2 failingRequest.toJson.render.toUTF8).value
        "FLATQUERY_CLI_REMOTE_FAILED" "Remote query rejected: first" := by
  have hposted : Posted failingRequest failingRequest.toJson.render :=
    posted_of_chars (by decide +kernel) (by decide +kernel) (by decide +kernel)
  have hposts := posts_posting failingRequest.toJson.render
  obtain ⟨-, hinorder, -⟩ := command_answers_as_server failingServer failingAnswers {}
    stamp _ _ rfl hposted.document hposted.length_le hposts
  obtain ⟨hread, ⟨hprinted, -⟩, -⟩ := @Command.resolved_of_read failingServer {} stamp
    _ _ hposted.document hposted.length_le hposts failingRequest hposted.decode_eq
  have hplanned : (failingService.explain failingRequest 2).value =
      .ok (.merge .or 1 [.direct (some (Filter.statusIs "Lost")) none 0,
        .direct (some (Filter.statusIs "Won")) none 0]) := rfl
  have hvalue : ((failingService.resuming .duringPoll).resolveRequest failingRequest
      2).value = .error (.remote (.rejected "first")) := by decide
  refine ⟨hposted, hinorder ?_, ?_⟩
  · rintro plan ⟨request, hsame, hplan⟩
    rw [hread] at hsame
    cases hsame
    rw [← Except.ok.inj (hplanned.symm.trans hplan)]
    exact .merge (by decide)
  · exact ⟨_, hprinted.trans (congrArg Command.ofResolution hvalue), rfl, rfl⟩

/-- A wide group whose last condition fails stands to the left of a condition that
fails too. -/
def nestedRequest : ResolveRequest where
  filter :=
    (Filter.group .and
      [.group .or (List.replicate 30 (Filter.statusIs "Open") ++
          [Filter.statusIs "Lost"]),
        Filter.statusIs "Won"]).toJson
  maxNestingLevel := some 0

/-- The group gives way after its second child, and the condition beside it fails before
the command has sent the rest of the group.  The server has sent all of it by then and
tells the group's own failure. -/
theorem command_out_of_step :
    failingServer.service.answer = failingAnswers.answer ∧
      Posted nestedRequest nestedRequest.toJson.render ∧
      (posting nestedRequest.toJson.render).Posts nestedRequest.toJson.render ∧
      ((Command.runQuery failingService 2
          nestedRequest.toJson.render.toUTF8).effects.sent.length = 5 ∧
        (failingServer.handle {} stamp
          (posting nestedRequest.toJson.render)).effects.sent.length = 32) ∧
      Command.Fails
        (Command.runQuery failingService 2 nestedRequest.toJson.render.toUTF8).value
        "FLATQUERY_CLI_REMOTE_FAILED" "Remote query rejected: second" ∧
      (failingServer.handle {} stamp
        (posting nestedRequest.toJson.render)).value.status = 502 ∧
      (failingServer.handle {} stamp (posting nestedRequest.toJson.render)).value.Tells
        "FLATQUERY_REMOTE_REJECTED" "Remote query rejected: first" := by
  have hposted : Posted nestedRequest nestedRequest.toJson.render :=
    posted_of_chars (by decide +kernel) (by decide +kernel) (by decide +kernel)
  have hposts := posts_posting nestedRequest.toJson.render
  obtain ⟨-, ⟨hprinted, hcommand⟩, hrepeats, hserver⟩ := @Command.resolved_of_read
    failingServer {} stamp _ _ hposted.document hposted.length_le hposts nestedRequest
    hposted.decode_eq
  have hsecond : ((failingServer.service.resuming .duringPoll).resolveRequest
      nestedRequest failingServer.limit).value =
        .error (.remote (.rejected "second")) := by decide +kernel
  have hfirst : (failingServer.service.resolveRequest nestedRequest
      failingServer.limit).value = .error (.remote (.rejected "first")) := by
    decide +kernel
  rw [hsecond] at hprinted
  rw [hfirst] at hrepeats
  refine ⟨rfl, hposted, hposts, ⟨?_, ?_⟩, ⟨_, hprinted, rfl, rfl⟩,
    hrepeats.status_eq, hrepeats.body_eq⟩
  · rw [show failingService = failingServer.service from rfl,
      show 2 = failingServer.limit from rfl, hcommand]
    decide +kernel
  · rw [hserver]
    decide +kernel

end NestedQuery
