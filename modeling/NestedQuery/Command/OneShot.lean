import NestedQuery.Command.Error
import NestedQuery.Json.Reader
import NestedQuery.Resolution.Service
import NestedQuery.Sales
import NestedQuery.Text.Characters

/-!
# One-shot commands

A one-shot command reads one request from its input and writes one line of JSON,
or fails and writes nothing.
-/

namespace NestedQuery.Command

/-- The request of an input text. -/
def ofText (text : String) : Except CommandError ResolveRequest :=
  if Text.isBlank text then .error (.input .empty)
  else
    match ResolveRequest.decode (Json.read text) with
    | .ok request => .ok request
    | .error _ => .error (.input .notRequest)

/-- The request of an input. -/
def readRequest (input : ByteArray) : Except CommandError ResolveRequest :=
  match String.fromUTF8? input with
  | some text => ofText text
  | none => .error (.input .notText)

/-- A document and the end of its line. -/
def document (value : Json) : String := value.render ++ "\n"

/-- Resolves the request of an input and gives the rows of its records.  No other
work shares the run, so a waiting poll is asked for again at once. -/
def runQuery (service : Service) (default : Nat) (input : ByteArray) :
    Traced (Except CommandError String) := do
  match readRequest input with
  | .error error => return .error error
  | .ok request =>
      let service := { service with resumption := .duringPoll }
      match ← service.resolveRequest request default with
      | .error error => return .error (.ofResolve error)
      | .ok records => return .ok (document (SalesRow.tableJson records))

/-- Plans the request of an input and gives the plan. -/
def runExplain (service : Service) (default : Nat) (input : ByteArray) :
    Traced (Except CommandError String) := do
  match readRequest input with
  | .error error => return .error error
  | .ok request =>
      match ← service.explain request default with
      | .error why => return .error (.rejected why)
      | .ok plan => return .ok (document plan.toJson)

end NestedQuery.Command
