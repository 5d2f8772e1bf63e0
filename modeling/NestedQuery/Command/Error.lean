import NestedQuery.Config
import NestedQuery.Resolution.Request

/-!
# Failed commands

Every failure of a command ends it.  What is printed is a stable code and a
message.
-/

namespace NestedQuery.Command

/-- Why the input of a command is refused. -/
inductive InputFlaw
  | notText
  | empty
  | notRequest
  /-- A reason given in words. -/
  | stated (reason : String)
  deriving DecidableEq

def InputFlaw.message : InputFlaw → String
  | .notText => "stream did not contain valid UTF-8"
  | .empty => "Empty input"
  | .notRequest => "JSON error"
  | .stated reason => reason

inductive CommandError
  | config (error : ConfigError)
  | input (flaw : InputFlaw)
  | rejected (why : Rejection)
  | remote (error : RemoteError)
  /-- The service could not be started. -/
  | boot (reason : String)
  deriving DecidableEq

namespace CommandError

def ofResolve : ResolveError → CommandError
  | .rejected why => .rejected why
  | .remote error => .remote error

def code : CommandError → String
  | .config _ => "FLATQUERY_CLI_CONFIG_ERROR"
  | .input _ => "FLATQUERY_CLI_IO_ERROR"
  | .rejected _ => "FLATQUERY_CLI_REQUEST_REJECTED"
  | .remote _ => "FLATQUERY_CLI_REMOTE_FAILED"
  | .boot _ => "FLATQUERY_CLI_BOOT_FAILED"

def message : CommandError → String
  | .config error => error.message
  | .input flaw => flaw.message
  | .rejected why => why.display
  | .remote error => error.message
  | .boot reason => reason

def display (error : CommandError) : String :=
  error.code ++ ": " ++ error.message

end CommandError

end NestedQuery.Command
