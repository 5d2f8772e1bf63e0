import NestedQuery.Config
import NestedQuery.Http.Cors
import NestedQuery.Http.Error
import NestedQuery.Http.Form
import NestedQuery.Http.MediaType
import NestedQuery.Http.Route
import NestedQuery.Json.Reader
import NestedQuery.Resolution.Service
import NestedQuery.Sales

/-!
# The HTTP service

Every request is counted and bracketed by two entries, whatever becomes of it.
A request with the method OPTIONS is a preflight on any path.  Any other is
routed by its path and then by its method; a HEAD request is answered like the
GET request, without the body.
-/

namespace NestedQuery.Http

/-- What the surroundings contribute to the answer of one request. -/
structure Stamp where
  requestId : String
  timestamp : String
  /-- Seconds since the server started. -/
  uptime : Number
  /-- Milliseconds the answer took. -/
  elapsed : String

structure Server where
  address : String
  service : Service
  /-- The nesting limit of requests that carry none. -/
  limit : Nat
  origins : Origins

/-- The version of the service. -/
def version : String := "0.1.0"

/-- The longest body the service reads, in bytes. -/
def bodyLimit : Nat := 2 * 1024 * 1024

/-- The resolution request of a body.  What follows the JSON value is
ignored. -/
def Request.resolveRequest (request : Request) : Except BodyFlaw ResolveRequest :=
  if !((request.header? "content-type").elim false MediaType.isJson) then
    .error .notJsonType
  else if bodyLimit < request.body.size then .error .tooLong
  else (ResolveRequest.decode (Json.readBytes request.body)).mapError .fault

/-- The answer to a resolution: its rows, or why it failed. -/
def Response.ofResolution : Except ResolveError (List Record) → Response
  | .ok records => .ofJson 200 (SalesRow.tableJson records).render
  | .error error => .ofError (.resolution error)

def Stamp.health (stamp : Stamp) : Json :=
  .object
    [("status", .string "healthy"), ("timestamp", .string stamp.timestamp),
      ("uptime", .number stamp.uptime),
      ("message", .string "Query server is running"), ("version", .string version)]

namespace Server

/-- The server of a configuration.  There is none if the configured origins
list the wildcard. -/
def ofConfig? (config : Config) (service : Service) : Option Server := do
  let origins ← Origins.ofList? config.corsOrigins
  return { address := config.socketAddress, service
           limit := config.maxNestingLevel.toNat, origins }

/-- Answers a request to a route that admits its method.  The counters include
this request. -/
def answer (server : Server) (counters : Counters) (stamp : Stamp)
    (request : Request) : Route → Traced Response
  | .health => return .ofJson 200 stamp.health.render
  | .metrics => return .ofJson 200 counters.toJson.render
  | .records =>
      return .ofResolution (← server.service.resolve none none server.limit)
  | .sorted =>
      match SortRequest.ofQuery? request.query with
      | none =>
          return { status := 400
                   headers := [("content-type", "text/plain; charset=utf-8")]
                   body := "Failed to deserialize query string" }
      | some sort =>
          return .ofResolution
            (← server.service.resolve none (some sort) server.limit)
  | .filtered =>
      match request.resolveRequest with
      | .error flaw => return .ofError (.invalidBody flaw)
      | .ok wanted =>
          return .ofResolution
            (← server.service.resolveRequest wanted server.limit)

/-- Answers a request by its method and its path. -/
def respond (server : Server) (counters : Counters) (stamp : Stamp)
    (request : Request) : Traced Response :=
  let route := Route.ofPath? request.path
  if request.method = "OPTIONS" then
    return { status := 200
             headers := Origins.preflightHeaders ++ (route.map Route.allow).toList }
  else
    match route with
    | none => return .ofError .notFound
    | some route =>
        if route.methods.contains request.method then do
          let response ← server.answer counters stamp request route
          return if request.method = "HEAD" then response.withoutBody else response
        else return { status := 405, headers := [route.allow] }

/-- Handles a request after the given counts. -/
def handle (server : Server) (counters : Counters) (stamp : Stamp)
    (request : Request) : Traced Response := do
  Traced.count { requests := 1 }
  Traced.log (Log.Event.requestReceived.entry
    [("method", request.method), ("path", request.path),
      ("request_id", stamp.requestId)])
  let response ← server.respond (counters + { requests := 1 }) stamp request
  Traced.log (Log.Event.requestComplete.entry
    [("elapsed_ms", stamp.elapsed), ("request_id", stamp.requestId),
      ("status", toString response.status)])
  return { response with
    headers := response.headers ++ server.origins.headers request ++
      [("x-request-id", stamp.requestId)] }

/-- Handles requests one after the other. -/
def handleAll (server : Server) :
    Effects → List (Stamp × Request) → List (Traced Response)
  | _, [] => []
  | past, (stamp, request) :: requests =>
      let answered := server.handle past.counted stamp request
      answered :: server.handleAll (past ++ answered.effects) requests

/-- What starting to listen logs: the address asked for, and then either the
address in use or the reason why the address cannot be had. -/
def startEntries (server : Server) (bound : Except String String) : List Log.Entry :=
  [Log.Event.serverStart.entry [("addr", server.address)],
    match bound with
    | .ok address => Log.Event.serving.entry [("addr", address)]
    | .error reason =>
        Log.Event.startupFailed.entry [("addr", server.address), ("reason", reason)]]

end Server

end NestedQuery.Http
