import NestedQuery.Command.Help
import NestedQuery.Command.OneShot
import NestedQuery.Remote.Exchange

/-!
# Running a command

A run is a function of the arguments and of what the surroundings answer: the
variables of the environment, files, the input, the remote service and the
network.  It gives what is written to both streams and the exit code: zero for
success, one for a failed command, two for a refused command line, and 101 for
a server that cannot be built.

The configuration is loaded before anything else; its entry is written under
the default severity, and everything after it under the configured one.  Only
`serve` logs to the output stream, the other commands keep it for their result.
-/

namespace NestedQuery.Command

/-- What a run asks of its surroundings. -/
structure Surroundings where
  environment : String → Option String
  fileContent : String → Except FileFlaw ByteArray
  input : ByteArray
  connection : Remote.Call → Option Remote.Reply
  /-- Listens on the configured host and port. -/
  listen : Config → Except String String
  elapsed : String

/-- What a run leaves behind. -/
structure Exit where
  code : Nat
  out : String := ""
  err : String := ""
  deriving DecidableEq

def lines (texts : List String) : String := String.join (texts.map (· ++ "\n"))

/-- The exit of a failed command after some lines on the streams. -/
def Exit.failure (out err : List String) (error : CommandError) : Exit :=
  { code := 1, out := lines out, err := lines (err ++ [error.display]) }

namespace Surroundings

def file (surroundings : Surroundings) (path : String) : ConfigFile :=
  ⟨path, surroundings.fileContent path⟩

def loadConfig (surroundings : Surroundings) (path : Option String)
    (purpose : Config.Purpose) : Except ConfigError Config :=
  Config.load (path.map surroundings.file) surroundings.environment purpose

/-- The service that asks the configured remote database. -/
def service (surroundings : Surroundings) (config : Config) : Service :=
  { schema := config.schema
    answer := (Remote.Endpoint.ofConfig config).answer surroundings.connection
    elapsed := surroundings.elapsed }

/-- The port given on the command line takes the place of the configured one. -/
def withPort (config : Config) : Option UInt16 → Except ConfigError Config
  | none => .ok config
  | some port => do
      let config := { config with port }
      config.validate.mapError .invalid
      return config

def serve (surroundings : Surroundings) (path : Option String)
    (port : Option UInt16) : Exit :=
  match surroundings.loadConfig path .online with
  | .error error => .failure [] [] (.config error)
  | .ok loaded =>
      let first := Log.written .info [loaded.loadedEntry]
      match withPort loaded port with
      | .error error => .failure first.out first.err (.config error)
      | .ok config =>
          match Http.Server.ofConfig? config (surroundings.service config) with
          | none =>
              { code := 101, out := lines first.out
                err := lines (first.err ++ ["the wildcard origin stands in a list"]) }
          | some server =>
              let bound := surroundings.listen config
              let rest := Log.written config.logLevel (server.startEntries bound)
              match bound with
              | .ok _ =>
                  { code := 0, out := lines (first.out ++ rest.out)
                    err := lines (first.err ++ rest.err) }
              | .error reason =>
                  .failure (first.out ++ rest.out) (first.err ++ rest.err)
                    (.boot ("HTTP server failed: " ++ reason))

/-- Runs a one-shot command under a loaded configuration. -/
def oneShot (surroundings : Surroundings) (loaded : Except ConfigError Config)
    (limit : Option UInt64)
    (command : Service → Nat → ByteArray → Traced (Except CommandError String)) :
    Exit :=
  match loaded with
  | .error error => .failure [] [] (.config error)
  | .ok config =>
      let default := (limit.getD config.maxNestingLevel).toNat
      let done := command (surroundings.service config) default surroundings.input
      let err := Log.redirected .info [config.loadedEntry] ++
        Log.redirected config.logLevel done.effects.logged
      match done.value with
      | .ok text => { code := 0, out := text, err := lines err }
      | .error error => .failure [] err error

def runInvocation (surroundings : Surroundings) : Invocation → Exit
  | .serve path port => surroundings.serve path port
  | .query path limit =>
      surroundings.oneShot (surroundings.loadConfig path .online) limit runQuery
  | .explain path limit =>
      surroundings.oneShot (surroundings.loadConfig path .offline) limit runExplain

/-- Runs the program on the arguments behind its name. -/
def run (surroundings : Surroundings) (arguments : List String) : Exit :=
  match parseArguments arguments with
  | .ok invocation => surroundings.runInvocation invocation
  | .error error =>
      if error.isAnswer then { code := 0, out := error.message }
      else { code := 2, err := error.message }

end Surroundings

end NestedQuery.Command
