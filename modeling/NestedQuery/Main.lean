import NestedQuery.Command.Run

/-!
# The program

Asks the surroundings for what the command line needs, runs it and writes what
the run leaves.  The configuration file is only looked at if the command line
names one, and the input only if the command reads it.  There is no network
here, so a query ends in a transport failure and a server cannot listen.
-/

namespace NestedQuery.Command

/-- The configuration file a command line names. -/
def Invocation.configPath : Invocation → Option String
  | .serve path _ | .query path _ | .explain path _ => path

def Invocation.readsInput : Invocation → Bool
  | .serve _ _ => false
  | .query _ _ | .explain _ _ => true

/-- The reason why a file cannot be read, by the number of the error. -/
def fileFlaw : IO.Error → FileFlaw
  | .noFileOrDirectory _ _ _ => .missing
  | .permissionDenied _ _ _ => .denied
  | .inappropriateType _ number _ => if number = 20 then .notDirectory else .isDirectory
  | .invalidArgument _ number _ =>
      if number = 36 then .nameTooLong else .stated "Invalid argument (os error 22)"
  | error => .stated (toString error)

/-- The variables of the environment a configuration may take values from. -/
def variableNames : List String :=
  ["HOST", "PORT", "NOTION_DATABASE_ID", "NOTION_SECRET", "NOTION_API_URL"]

def readSurroundings (invocation : Option Invocation) : IO Surroundings := do
  let environment ← variableNames.mapM fun name => return (name, ← IO.getEnv name)
  let content : Except FileFlaw ByteArray ←
    match invocation.bind Invocation.configPath with
    | none => pure (.ok ByteArray.empty)
    | some path =>
        try pure (.ok (← IO.FS.readBinFile path))
        catch error => pure (.error (fileFlaw error))
  let input ←
    if invocation.elim false Invocation.readsInput then
      (← IO.getStdin).readBinToEnd
    else pure ByteArray.empty
  return {
    environment := fun name => (environment.lookup name).join
    fileContent := fun _ => content
    input
    connection := fun _ => none
    listen := fun _ => .error "network is unreachable"
    elapsed := "0" }

/-- Runs the program and gives its exit code. -/
def runProgram (arguments : List String) : IO UInt32 := do
  let surroundings ← readSurroundings (parseArguments arguments).toOption
  let done := surroundings.run arguments
  (← IO.getStdout).putStr done.out
  (← IO.getStderr).putStr done.err
  return done.code.toUInt32

end NestedQuery.Command

def main (arguments : List String) : IO UInt32 :=
  NestedQuery.Command.runProgram arguments
