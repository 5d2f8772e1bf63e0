import NestedQuery.Config
import NestedQuery.Http.Message
import NestedQuery.Json.Reader
import NestedQuery.Query.Basic
import NestedQuery.Url.Reader

/-!
# Queries over HTTP

A query is sent as one POST to the query endpoint of a database, with a bearer
token and the version of the interface, and answered by one page.  A status
other than success is a failure with the body as its text; an answer that is no
page is a failure as well.  Only the first page is read.  What makes a call
impossible shows before anything is sent.
-/

namespace NestedQuery.Remote

/-- The endpoint of a database and what a call states in its headers. -/
structure Endpoint where
  url : String
  secret : String
  version : String
  deriving DecidableEq

/-- A call as it goes over the wire. -/
structure Call where
  url : Url
  authorization : String
  version : String
  body : String
  deriving DecidableEq

def Call.requestLine (call : Call) : String :=
  "POST " ++ call.url.target ++ " HTTP/1.1"

def Call.headers (call : Call) : List (String × String) :=
  [("authorization", call.authorization), ("content-type", "application/json"),
    ("notion-version", call.version)]

/-- Why no call can carry a query. -/
inductive CallFlaw
  /-- The endpoint is no URL. -/
  | noUrl
  | noHost (url : Url)
  /-- The token or the version may not stand in a header. -/
  | illegalHeader
  | noWebUrl (url : Url)
  deriving DecidableEq

def CallFlaw.message : CallFlaw → String
  | .noUrl | .illegalHeader => "builder error"
  | .noHost url | .noWebUrl url => "builder error for url (" ++ url.text ++ ")"

/-- The length of the longest URL that is called. -/
def urlLimit : Nat := 65534

/-- Whether a URL can be called: it is one of the web and not too long, and its
host has none of some characters. -/
def isWebUrl (url : Url) : Bool :=
  ["http", "https"].contains url.scheme && url.text.utf8ByteSize ≤ urlLimit &&
    !(url.host?.elim "" Host.text).any ['"', '\x60', '\x7b', '\x7d'].contains

/-- An answer as it comes over the wire. -/
structure Reply where
  status : Nat
  body : String
  deriving DecidableEq

namespace Reply

/-- Interim answers and those without content carry no body. -/
def content (reply : Reply) : String :=
  if reply.status < 200 ∨ reply.status = 204 ∨ reply.status = 304 then ""
  else reply.body

def isSuccess (reply : Reply) : Bool := 200 ≤ reply.status && reply.status < 300

/-- The page of an answer. -/
def page (reply : Reply) : Except RemoteError Page :=
  if reply.isSuccess then
    match Page.decode (Json.read reply.content) with
    | .ok page => .ok page
    | .error _ => .error (.decode "error decoding response body")
  else .error (.status reply.status reply.content)

end Reply

namespace Endpoint

def ofConfig (config : Config) : Endpoint :=
  ⟨config.queryUrl, config.secret.getD "", config.apiVersion⟩

/-- The call that carries a query. -/
def call (endpoint : Endpoint) (query : Query) : Except CallFlaw Call := do
  match Url.parse? endpoint.url with
  | none => throw .noUrl
  | some url =>
      if url.host?.isNone then throw (.noHost url)
      else if !(Http.isHeaderValue endpoint.secret && Http.isHeaderValue endpoint.version)
        then throw .illegalHeader
      else
        let url := url.withoutCredentials
        if isWebUrl url then
          return ⟨url, "Bearer " ++ endpoint.secret, endpoint.version,
            query.toJson.render⟩
        else throw (.noWebUrl url)

/-- Answers queries over a connection, which may fail to give a reply. -/
def answer (endpoint : Endpoint) (connection : Call → Option Reply) : Answer :=
  fun query =>
    match endpoint.call query with
    | .error flaw => .refused (.transport flaw.message)
    | .ok call =>
        match connection call with
        | none =>
            .sent (.error (.transport
              ("error sending request for url (" ++ call.url.text ++ ")")))
        | some reply => .sent reply.page

end Endpoint

end NestedQuery.Remote
